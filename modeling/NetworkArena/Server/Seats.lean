/-
# NetworkArena.Server.Seats -- who is in the room

The room as its members see it: for every player the session, the player id, the side and the input
it last applied. `Room.seats` is this list, and each operation of the room does something simple to
it: a tick and the end of a game do nothing, `Leave` takes a seat away, `Enter` adds one, an input
changes one, and the start of a game clears the inputs of all.

`Server.Seated` says that the seats are the ones the server has assigned: every player in the room
belongs to a session, with the player id and the side this session was given when it entered, and no
two players share an id.
-/
import NetworkArena.Server.Server

set_option linter.dupNamespace false

namespace NetworkArena.Server

open NetworkArena.Shared

variable {K ρ ω : Type}

/-! ## Seats -/

/-- A player as far as a tick of the simulation leaves it alone. -/
structure Seat (K ρ : Type) where
  key : SessionId
  playerId : PlayerId
  session : Option ρ
  side : PlayerSide
  directionX : K
  directionY : K
  dashInputActive : Bool

def seatOf (entry : SessionId × Player K ρ) : Seat K ρ :=
  ⟨entry.1, entry.2.playerId, entry.2.session, entry.2.state.side, entry.2.state.directionX,
    entry.2.state.directionY, entry.2.state.dashInputActive⟩

def Room.seats (r : Room K ρ) : List (Seat K ρ) := r.players.map seatOf

/-- Two states with the same side and the same input. -/
structure SameInput (state state' : PlayerState K) : Prop where
  side : state'.side = state.side
  directionX : state'.directionX = state.directionX
  directionY : state'.directionY = state.directionY
  dashInputActive : state'.dashInputActive = state.dashInputActive

theorem Room.mem_seats {r : Room K ρ} {seat : Seat K ρ} :
    seat ∈ r.seats ↔ ∃ entry ∈ r.players, seatOf entry = seat :=
  List.mem_map

theorem seats_length (r : Room K ρ) : r.seats.length = r.players.length := List.length_map _

section Keeping

variable {r : Room K ρ}

theorem SameInput.seatOf {state state' : PlayerState K} (h : SameInput state state')
    (key : SessionId) (playerId : PlayerId) (sessionId : SessionId) (session : Option ρ) :
    seatOf (key, ⟨playerId, sessionId, session, state'⟩) =
      seatOf (key, ⟨playerId, sessionId, session, state⟩) := by
  simp only [NetworkArena.Server.seatOf, h.side, h.directionX, h.directionY, h.dashInputActive]

theorem seats_forEachPlayer {f : PlayerState K → PlayerState K}
    (hf : ∀ state, SameInput state (f state)) :
    (r.forEachPlayer f).seats = r.seats := by
  simp only [Room.seats, Room.forEachPlayer, List.map_map]
  apply List.map_congr_left
  intro entry _
  exact (hf entry.2.state).seatOf ..

theorem seats_updatePlayer {f : PlayerState K → PlayerState K}
    (hf : ∀ state, SameInput state (f state)) (sessionId : SessionId) :
    (r.updatePlayer sessionId f).seats = r.seats := by
  simp only [Room.seats, Room.updatePlayer, List.map_map]
  apply List.map_congr_left
  intro entry _
  simp only [Function.comp_apply]
  split
  · exact (hf entry.2.state).seatOf ..
  · rfl

variable [Field K] [LinearOrder K]

omit [LinearOrder K] in
theorem sameInput_resetPlayerPosition (state : PlayerState K) :
    SameInput state (Room.resetPlayerPosition state) := by
  unfold Room.resetPlayerPosition
  split
  · exact ⟨rfl, rfl, rfl, rfl⟩
  · split <;> exact ⟨rfl, rfl, rfl, rfl⟩

omit [LinearOrder K] in
theorem sameInput_endDash (state : PlayerState K) : SameInput state (Room.endDash state) :=
  ⟨rfl, rfl, rfl, rfl⟩

omit [LinearOrder K] in
theorem sameInput_respawn (state : PlayerState K) : SameInput state (respawn state) :=
  ⟨(sameInput_resetPlayerPosition _).side, (sameInput_resetPlayerPosition _).directionX,
    (sameInput_resetPlayerPosition _).directionY,
    (sameInput_resetPlayerPosition _).dashInputActive⟩

theorem sameInput_tickPlayer (deltaSeconds : K) (state : PlayerState K) :
    SameInput state (Room.tickPlayer deltaSeconds state) := by
  obtain ⟨hside, hx, hy, hdash⟩ := movePlayer_frame deltaSeconds state
  exact ⟨hside, hx, hy, hdash⟩

/-! ## A tick -/

theorem seats_resolveCollision (collision : Room.PlayerCollision K) :
    (r.resolveCollision collision).seats = r.seats := by
  rw [Room.resolveCollision_eq]
  exact (seats_updatePlayer sameInput_respawn _).trans (seats_updatePlayer sameInput_respawn _)

theorem seats_resolveCollisions (collisions : List (Room.PlayerCollision K)) :
    (collisions.foldl Room.resolveCollision r).seats = r.seats := by
  induction collisions generalizing r with
  | nil => rfl
  | cons collision collisions ih =>
      rw [List.foldl_cons, ih]
      exact seats_resolveCollision collision

variable [IsStrictOrderedRing K] [FloorRing K] [HasSqrt K]

/-- **A tick leaves the seats alone**, and never starts a game. -/
theorem Room.tick_frame (r : Room K ρ) (deltaSeconds : K) :
    (r.tick deltaSeconds).seats = r.seats ∧ (r.tick deltaSeconds).roomId = r.roomId ∧
      (r.tick deltaSeconds).nextPlayerId = r.nextPlayerId ∧
      ((r.tick deltaSeconds).gameState = .playing → r.gameState = .playing) := by
  by_cases hidle : deltaSeconds ≤ 0 ∨ r.gameState ≠ .playing
  · rw [Room.tick_idle hidle]
    exact ⟨rfl, rfl, rfl, fun h => h⟩
  simp only [not_or, not_le, ne_eq, not_not] at hidle
  obtain ⟨hdelta, hplaying⟩ := hidle
  have hseats : (r.simulate deltaSeconds).seats = r.seats :=
    (seats_resolveCollisions _).trans (seats_forEachPlayer (sameInput_tickPlayer _))
  obtain ⟨scores, players, hsimulate⟩ := r.simulate_eq deltaSeconds
  have hroom : (r.simulate deltaSeconds).roomId = r.roomId := by rw [hsimulate]
  have hnext : (r.simulate deltaSeconds).nextPlayerId = r.nextPlayerId := by rw [hsimulate]
  rw [Room.tick_playing hdelta hplaying]
  split
  · exact ⟨(seats_forEachPlayer sameInput_endDash).trans hseats, hroom, hnext,
      fun _ => hplaying⟩
  · exact ⟨hseats, hroom, hnext, fun _ => hplaying⟩

end Keeping

/-! ## The other operations -/

section Changing

variable {r : Room K ρ} [Field K]

/-- A seat whose input is cleared. -/
def Seat.cleared (seat : Seat K ρ) : Seat K ρ :=
  { seat with directionX := 0, directionY := 0, dashInputActive := false }

/-- A seat with a new input. -/
def Seat.withInput [LinearOrder K] [HasSqrt K] (input : PlayerInputPayload) (seat : Seat K ρ) :
    Seat K ρ :=
  { seat with
    directionX := (normalizePlayerInput input : NormalizedPlayerInput K).moveX
    directionY := (normalizePlayerInput input : NormalizedPlayerInput K).moveY
    dashInputActive := input.dash }

theorem Room.seats_startGame : r.startGame.seats = r.seats.map Seat.cleared := by
  simp only [Room.seats, Room.startGame, Room.forEachPlayer, List.map_map]
  apply List.map_congr_left
  intro entry _
  have hside := (sameInput_resetPlayerPosition entry.2.state).side
  simp only [Function.comp_apply, seatOf, Seat.cleared, Room.startPlayer, hside]

theorem Room.leave_frame (r : Room K ρ) (sessionId : SessionId) :
    (r.leave sessionId).seats = r.seats.filter (fun seat => seat.key ≠ sessionId) ∧
      (r.leave sessionId).roomId = r.roomId ∧
      (r.leave sessionId).nextPlayerId = r.nextPlayerId ∧
      ((r.leave sessionId).gameState = .playing → r.gameState = .playing) := by
  by_cases hknown : ∀ entry ∈ r.players, entry.1 ≠ sessionId
  · rw [Room.leave_unknown hknown]
    refine ⟨(List.filter_eq_self.mpr fun seat hseat => ?_).symm, rfl, rfl, fun h => h⟩
    obtain ⟨entry, hentry, rfl⟩ := Room.mem_seats.mp hseat
    exact decide_eq_true (hknown entry hentry)
  have hany : (r.players.any fun entry => entry.1 = sessionId) = true := by
    simpa using hknown
  have hseats : (r.players.filter fun entry => entry.1 ≠ sessionId).map seatOf =
      r.seats.filter fun seat => seat.key ≠ sessionId := by
    rw [Room.seats, List.filter_map]
    rfl
  unfold Room.leave
  rw [if_pos hany]
  dsimp only
  split
  · exact ⟨hseats, rfl, rfl, nofun⟩
  · exact ⟨hseats, rfl, rfl, fun h => h⟩

theorem Room.applyPlayerInput_frame [LinearOrder K] [HasSqrt K] (r : Room K ρ)
    (sessionId : SessionId) (input : PlayerInputPayload) :
    (r.applyPlayerInput sessionId input).2.seats =
        r.seats.map (fun seat => if seat.key = sessionId then seat.withInput input else seat) ∧
      (r.applyPlayerInput sessionId input).2.roomId = r.roomId ∧
      (r.applyPlayerInput sessionId input).2.nextPlayerId = r.nextPlayerId ∧
      (r.applyPlayerInput sessionId input).2.gameState = r.gameState := by
  have hinput : ∀ entry : SessionId × Player K ρ,
      seatOf (entry.1, { entry.2 with
        state := Room.applyInput r.gameState input entry.2.state }) =
        (seatOf entry).withInput input := by
    intro entry
    simp only [seatOf, Seat.withInput, Room.applyInput]
    split
    · rfl
    · split
      · rfl
      · split
        · rfl
        · split <;> rfl
  unfold Room.applyPlayerInput
  by_cases hany : (r.players.any fun entry => entry.1 = sessionId) = true
  · rw [if_pos hany]
    refine ⟨?_, rfl, rfl, rfl⟩
    simp only [Room.seats, Room.updatePlayer, List.map_map]
    apply List.map_congr_left
    intro entry _
    by_cases hkey : entry.1 = sessionId
    · simp only [Function.comp_apply, if_pos hkey]
      rw [if_pos (show (seatOf entry).key = sessionId from hkey)]
      exact hinput entry
    · simp only [Function.comp_apply, if_neg hkey]
      rw [if_neg (show ¬ (seatOf entry).key = sessionId from hkey)]
  · rw [if_neg hany]
    refine ⟨?_, rfl, rfl, rfl⟩
    have hnone : ∀ seat ∈ r.seats, (if seat.key = sessionId then seat.withInput input
        else seat) = seat := by
      intro seat hseat
      obtain ⟨entry, hentry, rfl⟩ := Room.mem_seats.mp hseat
      rw [if_neg]
      intro hkey
      exact hany (List.any_eq_true.mpr ⟨entry, hentry, decide_eq_true hkey⟩)
    exact ((List.map_congr_left hnone).trans (List.map_id' r.seats)).symm

end Changing

/-! ## Entering -/

section Entering

variable [Field K] [SessionObject ρ]

/-- The seat of a player that enters. -/
def Room.newSeat (r : Room K ρ) (session : ρ) : Seat K ρ :=
  ⟨SessionObject.getId session, r.nextPlayerId, some session, r.freeSide, 0, 0, false⟩

theorem Room.seats_withPlayer (r : Room K ρ) (session : ρ) :
    (r.withPlayer session).seats = r.seats ++ [r.newSeat session] := by
  have hstate := sameInput_resetPlayerPosition ({ (PlayerState.initial : PlayerState K) with
    side := r.freeSide })
  rw [Room.seats, Room.withPlayer, List.map_append]
  congr 1
  simp only [List.map_cons, List.map_nil, seatOf, Room.newSeat, hstate.side, hstate.directionX,
    hstate.directionY, hstate.dashInputActive]
  rfl

/-- The room after a session has entered. -/
structure Room.Entered (r : Room K ρ) (session : ρ) (r' : Room K ρ) : Prop where
  admits : r.Admits session
  roomId : r'.roomId = r.roomId
  nextPlayerId : r'.nextPlayerId = r.followingPlayerId
  seats : (r'.gameState = r.gameState ∧ r'.seats = r.seats ++ [r.newSeat session]) ∨
    (r.gameState = .waiting ∧ r'.gameState = .playing ∧
      r'.seats = r.seats.map Seat.cleared ++ [r.newSeat session])

theorem Room.enter_frame [LinearOrder K] (r : Room K ρ) (session : ρ) :
    (∃ playerId, (playerId = r.nextPlayerId ∨
        r.nextPlayerId ≠ 0 ∧ playerId = r.followingPlayerId) ∧
      r.enter (some session) = (none, { r with nextPlayerId := playerId })) ∨
      ∃ r', r.enter (some session) = (some r.nextPlayerId, r') ∧ r.Entered session r' := by
  rcases r.enter_cases (some session) with
    ⟨playerId, hplayerId, hrefused⟩ | ⟨entering, hsession, hadmits, hentered⟩
  · refine Or.inl ⟨playerId, ?_, hrefused⟩
    rcases hplayerId with ⟨hsame, -⟩ | ⟨⟨_, -, -, -, -, hnext, -⟩, hfollowing⟩
    · exact Or.inl hsame
    · exact Or.inr ⟨hnext, hfollowing⟩
  obtain rfl : session = entering := Option.some.inj hsession
  refine Or.inr ⟨_, hentered, ?_⟩
  split
  · next hstart =>
      refine ⟨hadmits, rfl, rfl, Or.inr ⟨hstart.1, rfl, ?_⟩⟩
      rw [Room.seats_startGame, Room.seats_withPlayer, List.map_append]
      rfl
  · exact ⟨hadmits, rfl, rfl, Or.inl ⟨rfl, r.seats_withPlayer session⟩⟩

end Entering

/-! ## The player ids -/

def Room.playerIds (r : Room K ρ) : List PlayerId := r.seats.map (·.playerId)

section Snapshots

variable [Field K] [LinearOrder K]

/-! `CaptureSnapshot` sorts the players by their ids, a total and transitive order. -/

instance : Std.Total fun left right : PlayerStateSnapshot K => left.playerId ≤ right.playerId :=
  ⟨fun left right => UInt32.le_total left.playerId right.playerId⟩

instance : IsTrans (PlayerStateSnapshot K) fun left right => left.playerId ≤ right.playerId :=
  ⟨fun _ _ _ hle hle' => UInt32.le_trans hle hle'⟩

theorem Room.captureSnapshot_perm (r : Room K ρ) (serverTick : ServerTick) :
    (r.captureSnapshot serverTick).players.Perm
      (r.players.map fun entry => Room.snapshotPlayer (r.gameState == .playing) entry.2) :=
  List.perm_insertionSort _ _

theorem Room.captureSnapshot_sorted (r : Room K ρ) (serverTick : ServerTick) :
    (r.captureSnapshot serverTick).players.Pairwise
      fun left right => left.playerId ≤ right.playerId :=
  List.pairwise_insertionSort _ _

/-- The ids in a snapshot are those of the players. -/
theorem Room.captureSnapshot_ids (r : Room K ρ) (serverTick : ServerTick) :
    ((r.captureSnapshot serverTick).players.map (·.playerId)).Perm r.playerIds := by
  refine ((r.captureSnapshot_perm serverTick).map _).trans (List.Perm.of_eq ?_)
  rw [Room.playerIds, Room.seats, List.map_map, List.map_map]
  rfl

end Snapshots

theorem followingPlayerId_toNat (r : Room K ρ) :
    r.followingPlayerId = 0 ∨ r.followingPlayerId.toNat = r.nextPlayerId.toNat + 1 := by
  unfold Room.followingPlayerId
  by_cases hlast : r.nextPlayerId = 4294967295
  · exact Or.inl (if_pos hlast)
  · right
    rw [if_neg hlast, UInt32.toNat_add]
    have hlt := r.nextPlayerId.toNat_lt
    have hne : r.nextPlayerId.toNat ≠ 4294967295 := fun heq => hlast (UInt32.toNat_inj.mp heq)
    exact Nat.mod_eq_of_lt (by simp only [UInt32.toNat_ofNat]; omega)

/-- The players of a room have ids of their own, and the next one is new as well. No id is given out
after the last one. -/
structure Room.Numbered (r : Room K ρ) : Prop where
  identified : ∀ playerId ∈ r.playerIds, playerId ≠ 0
  distinct : r.playerIds.Nodup
  next : r.nextPlayerId = 0 ∨ ∀ playerId ∈ r.playerIds, playerId.toNat < r.nextPlayerId.toNat

section Numbered

variable {r r' : Room K ρ}

/-- The ids of the players, seat by seat. -/
theorem Room.numbered_iff :
    r.Numbered ↔ (∀ seat ∈ r.seats, seat.playerId ≠ 0) ∧ (r.seats.map (·.playerId)).Nodup ∧
      (r.nextPlayerId = 0 ∨ ∀ seat ∈ r.seats, seat.playerId.toNat < r.nextPlayerId.toNat) := by
  constructor
  · rintro ⟨hidentified, hdistinct, hnext⟩
    refine ⟨fun seat hseat => hidentified _ (List.mem_map_of_mem hseat), hdistinct, ?_⟩
    exact hnext.imp_right fun hbelow seat hseat => hbelow _ (List.mem_map_of_mem hseat)
  · rintro ⟨hidentified, hdistinct, hnext⟩
    refine ⟨?_, hdistinct, hnext.imp_right fun hbelow => ?_⟩
    · intro playerId hin
      obtain ⟨seat, hseat, rfl⟩ := List.mem_map.mp hin
      exact hidentified seat hseat
    · intro playerId hin
      obtain ⟨seat, hseat, rfl⟩ := List.mem_map.mp hin
      exact hbelow seat hseat

theorem Room.Numbered.of_sublist (h : r.Numbered) (hnext : r'.nextPlayerId = r.nextPlayerId)
    (hids : r'.playerIds.Sublist r.playerIds) : r'.Numbered where
  identified playerId hin := h.identified playerId (hids.subset hin)
  distinct := hids.nodup h.distinct
  next := by
    rw [hnext]
    exact h.next.imp_right fun hbelow playerId hin => hbelow playerId (hids.subset hin)

/-- A refused `Enter` uses up an id at most. -/
theorem Room.Numbered.refused (h : r.Numbered) {playerId : PlayerId}
    (hplayerId : playerId = r.nextPlayerId ∨
      r.nextPlayerId ≠ 0 ∧ playerId = r.followingPlayerId) :
    { r with nextPlayerId := playerId }.Numbered := by
  refine ⟨h.identified, h.distinct, ?_⟩
  rcases hplayerId with rfl | ⟨hne, rfl⟩
  · exact h.next
  · rcases followingPlayerId_toNat r with hzero | hsucc
    · exact Or.inl hzero
    · right
      intro playerId hin
      have hbelow := h.next.resolve_left hne playerId hin
      show playerId.toNat < r.followingPlayerId.toNat
      omega

variable [Field K]

theorem Room.Numbered.leave (h : r.Numbered) (sessionId : SessionId) :
    (r.leave sessionId).Numbered := by
  obtain ⟨hseats, -, hnext, -⟩ := r.leave_frame sessionId
  refine h.of_sublist hnext ?_
  rw [Room.playerIds, hseats]
  exact List.filter_sublist.map _

/-- **A player that enters** gets an id that no other has. -/
theorem Room.Numbered.entered [SessionObject ρ] (h : r.Numbered) {session : ρ}
    (hentered : r.Entered session r') : r'.Numbered := by
  obtain ⟨hadmits, -, hnext, hseats⟩ := hentered
  have hids : r'.playerIds = r.playerIds ++ [r.nextPlayerId] := by
    unfold Room.playerIds
    rcases hseats with ⟨-, hseats⟩ | ⟨-, -, hseats⟩
    · rw [hseats, List.map_append]
      rfl
    · rw [hseats, List.map_append, List.map_map]
      rfl
  have hbelow := h.next.resolve_left hadmits.playerId
  refine ⟨?_, ?_, ?_⟩
  · intro playerId hin
    rw [hids] at hin
    rcases List.mem_append.mp hin with hold | hnew
    · exact h.identified playerId hold
    · rw [List.mem_singleton.mp hnew]
      exact hadmits.playerId
  · rw [hids]
    refine List.nodup_append.mpr ⟨h.distinct, List.nodup_singleton _, ?_⟩
    intro playerId hin playerId' hin' heq
    rw [List.mem_singleton.mp hin'] at heq
    exact (hbelow playerId hin).ne (congrArg UInt32.toNat heq)
  · rw [hnext, hids]
    rcases followingPlayerId_toNat r with hzero | hsucc
    · exact Or.inl hzero
    · right
      intro playerId hin
      rw [hsucc]
      rcases List.mem_append.mp hin with hold | hnew
      · exact Nat.lt_succ_of_lt (hbelow playerId hold)
      · rw [List.mem_singleton.mp hnew]
        exact Nat.lt_succ_self _

variable [LinearOrder K]

theorem Room.Numbered.enter [SessionObject ρ] (h : r.Numbered) (session : Option ρ) :
    (r.enter session).2.Numbered := by
  cases session with
  | none => exact h
  | some session =>
      rcases r.enter_frame session with ⟨playerId, hplayerId, hrefused⟩ | ⟨r', henter, hentered⟩
      · rw [hrefused]
        exact h.refused hplayerId
      · rw [henter]
        exact h.entered hentered

variable [HasSqrt K]

theorem Room.Numbered.applyPlayerInput (h : r.Numbered) (sessionId : SessionId)
    (input : PlayerInputPayload) : (r.applyPlayerInput sessionId input).2.Numbered := by
  obtain ⟨hseats, -, hnext, -⟩ := r.applyPlayerInput_frame sessionId input
  refine h.of_sublist hnext ?_
  have hids : (r.applyPlayerInput sessionId input).2.playerIds = r.playerIds := by
    rw [Room.playerIds, hseats, List.map_map]
    apply List.map_congr_left
    intro seat _
    rw [Function.comp_apply]
    split <;> rfl
  rw [hids]

theorem Room.Numbered.tick [IsStrictOrderedRing K] [FloorRing K] (h : r.Numbered)
    (deltaSeconds : K) : (r.tick deltaSeconds).Numbered := by
  obtain ⟨hseats, -, hnext, -⟩ := r.tick_frame deltaSeconds
  refine h.of_sublist hnext ?_
  rw [Room.playerIds, hseats]
  exact List.Sublist.refl _

/-- **Every operation** keeps the ids of the players apart. -/
theorem Room.Numbered.step [IsStrictOrderedRing K] [FloorRing K] [SessionObject ρ]
    {t : Room K ρ × ω} (h : t.1.Numbered) (sessions : Room.Sessions ρ ω)
    (event : RoomEvent K ρ ω) : (Room.step sessions t event).1.Numbered := by
  cases event with
  | enter session => exact h.enter session
  | leave sessionId => exact h.leave sessionId
  | applyPlayerInput sessionId input => exact h.applyPlayerInput sessionId input
  | tick deltaSeconds => exact h.tick deltaSeconds
  | broadcast type payload =>
      exact Room.broadcast_induction (P := Room.Numbered) (fun _ id h => h.leave id) sessions type
        payload t.2 h
  | sessions w => exact h

end Numbered

/-! ## The seats are the ones assigned -/

/-- What never changes about a seat. -/
def Seat.tag (seat : Seat K ρ) : SessionId × PlayerId × Option ρ × PlayerSide :=
  (seat.key, seat.playerId, seat.session, seat.side)

/-- The tags of the players. -/
def Room.tags (r : Room K ρ) : List (SessionId × PlayerId × Option ρ × PlayerSide) :=
  r.seats.map Seat.tag

section Tags

variable [Field K] (r : Room K ρ)

theorem Room.tags_leave (sessionId : SessionId) : (r.leave sessionId).tags.Sublist r.tags := by
  obtain ⟨hseats, -⟩ := r.leave_frame sessionId
  rw [Room.tags, hseats]
  exact List.filter_sublist.map _

theorem Room.tags_applyPlayerInput [LinearOrder K] [IsStrictOrderedRing K] [HasSqrt K]
    (sessionId : SessionId) (input : PlayerInputPayload) :
    (r.applyPlayerInput sessionId input).2.tags = r.tags := by
  obtain ⟨hseats, -⟩ := r.applyPlayerInput_frame sessionId input
  rw [Room.tags, hseats, List.map_map]
  apply List.map_congr_left
  intro seat _
  rw [Function.comp_apply]
  split <;> rfl

theorem Room.tags_tick [LinearOrder K] [IsStrictOrderedRing K] [FloorRing K] [HasSqrt K]
    (deltaSeconds : K) : (r.tick deltaSeconds).tags = r.tags := by
  obtain ⟨hseats, -⟩ := r.tick_frame deltaSeconds
  rw [Room.tags, hseats]
  rfl

variable [SessionObject ρ] {r} {session : ρ} {r' : Room K ρ}

/-- The others keep their tags. -/
theorem Room.Entered.tags (h : r.Entered session r') :
    r'.tags = r.tags ++ [(r.newSeat session).tag] := by
  unfold Room.tags
  rcases h.seats with ⟨-, hseats⟩ | ⟨-, -, hseats⟩
  · rw [hseats, List.map_append]
    rfl
  · rw [hseats, List.map_append, List.map_map]
    rfl

/-- Who is in the room after a session has entered: the new player, and the others, whose inputs are
cleared if a game starts. -/
theorem Room.Entered.mem_seats (h : r.Entered session r') {seat : Seat K ρ}
    (hseat : seat ∈ r'.seats) :
    seat = r.newSeat session ∨ seat ∈ r.seats ∨
      r.gameState = .waiting ∧ ∃ old ∈ r.seats, seat = old.cleared := by
  rcases h.seats with ⟨-, hseats⟩ | ⟨hwaiting, -, hseats⟩
  · rw [hseats] at hseat
    rcases List.mem_append.mp hseat with hold | hlast
    · exact Or.inr (Or.inl hold)
    · exact Or.inl (List.mem_singleton.mp hlast)
  · rw [hseats] at hseat
    rcases List.mem_append.mp hseat with hcleared | hlast
    · obtain ⟨old, hold, rfl⟩ := List.mem_map.mp hcleared
      exact Or.inr (Or.inr ⟨hwaiting, old, hold, rfl⟩)
    · exact Or.inl (List.mem_singleton.mp hlast)

end Tags

namespace Server

section Seated

variable [Field K] [LinearOrder K] [SessionObject ρ]

structure Seated (s : Server K ρ) : Prop where
  consistent : s.room.Consistent
  roomId : s.room.roomId = defaultRoomId
  assigned : ∀ seat ∈ s.room.seats, ∃ session, seat.session = some session ∧
    seat.key = SessionObject.getId session ∧ s.assigned session = some (seat.playerId, seat.side)
  identified : ∀ seat ∈ s.room.seats, seat.playerId ≠ 0
  distinct : (s.room.seats.map (·.playerId)).Nodup
  next : s.room.nextPlayerId = 0 ∨
    ∀ seat ∈ s.room.seats, seat.playerId.toNat < s.room.nextPlayerId.toNat

variable {s s' : Server K ρ}

theorem Seated.numbered (h : s.Seated) : s.room.Numbered :=
  Room.numbered_iff.mpr ⟨h.identified, h.distinct, h.next⟩

/-- Seats are assigned by the server, and numbered by the room. -/
theorem Seated.of_numbered (hconsistent : s.room.Consistent) (hroom : s.room.roomId = defaultRoomId)
    (hassigned : ∀ seat ∈ s.room.seats, ∃ session, seat.session = some session ∧
      seat.key = SessionObject.getId session ∧
      s.assigned session = some (seat.playerId, seat.side)) (hnumbered : s.room.Numbered) :
    s.Seated :=
  have hseats := Room.numbered_iff.mp hnumbered
  ⟨hconsistent, hroom, hassigned, hseats.1, hseats.2.1, hseats.2.2⟩

/-- Only the room counts, and what was assigned. -/
theorem Seated.of_eq (h : s.Seated) (hroom : s'.room = s.room)
    (hassigned : s'.assigned = s.assigned) : s'.Seated := by
  obtain ⟨hconsistent, hid, hseats, hidentified, hdistinct, hnext⟩ := h
  constructor
  all_goals
    rw [hroom]
  · exact hconsistent
  · exact hid
  · rw [hassigned]
    exact hseats
  · exact hidentified
  · exact hdistinct
  · exact hnext

/-- Players may leave and their inputs may change. -/
theorem Seated.of_sublist (h : s.Seated) (hconsistent : s'.room.Consistent)
    (hroom : s'.room.roomId = s.room.roomId)
    (hassigned : s'.assigned = s.assigned) (hnext : s'.room.nextPlayerId = s.room.nextPlayerId)
    (hseats : s'.room.tags.Sublist s.room.tags) : s'.Seated := by
  have hids : s'.room.playerIds.Sublist s.room.playerIds := by
    have hmap := hseats.map (·.2.1)
    unfold Room.tags at hmap
    simp only [List.map_map] at hmap
    exact hmap
  refine .of_numbered hconsistent (hroom.trans h.roomId) ?_ (h.numbered.of_sublist hnext hids)
  intro seat' hseat'
  obtain ⟨seat, hseat, htag⟩ := List.mem_map.mp (hseats.subset (List.mem_map_of_mem hseat'))
  obtain ⟨hkey, hid, hsession, hside⟩ : seat.key = seat'.key ∧ seat.playerId = seat'.playerId ∧
    seat.session = seat'.session ∧ seat.side = seat'.side := by simpa [Seat.tag] using htag
  rw [hassigned, ← hkey, ← hid, ← hsession, ← hside]
  exact h.assigned seat hseat

theorem seated_create : (create : Server K ρ).Seated where
  consistent := Room.consistent_create _
  roomId := rfl
  assigned := nofun
  identified := nofun
  distinct := List.nodup_nil
  next := Or.inr nofun

theorem Seated.leaveDefaultRoom (h : s.Seated) (sessionId : SessionId) :
    (s.leaveDefaultRoom sessionId).Seated := by
  obtain ⟨-, hroom, hnext, -⟩ := s.room.leave_frame sessionId
  exact h.of_sublist (h.consistent.leave sessionId) hroom rfl hnext (s.room.tags_leave sessionId)

theorem Seated.handleSessionClosed (h : s.Seated) (sessionId : SessionId) :
    (s.handleSessionClosed sessionId).Seated :=
  Seated.leaveDefaultRoom (s := s.removeSession sessionId) (h.of_eq rfl rfl) sessionId

theorem Seated.handlePlayerInput [HasSqrt K] [IsStrictOrderedRing K] (h : s.Seated)
    (sessionId : SessionId) (input : PlayerInputPayload) :
    (s.handlePlayerInput sessionId input).Seated := by
  obtain ⟨-, hroom, hnext, -⟩ := s.room.applyPlayerInput_frame sessionId input
  refine h.of_sublist (h.consistent.applyPlayerInput sessionId input) hroom rfl hnext ?_
  show (s.room.applyPlayerInput sessionId input).2.tags.Sublist _
  rw [Room.tags_applyPlayerInput]

theorem Seated.tick [HasSqrt K] [IsStrictOrderedRing K] [FloorRing K] (h : s.Seated)
    (deltaSeconds : K) : { s with room := s.room.tick deltaSeconds }.Seated := by
  obtain ⟨-, hroom, hnext, -⟩ := s.room.tick_frame deltaSeconds
  refine h.of_sublist (h.consistent.tick deltaSeconds) hroom rfl hnext ?_
  show (s.room.tick deltaSeconds).tags.Sublist _
  rw [Room.tags_tick]

/-- A refused `Enter` uses up an id at most. -/
theorem Seated.refused (h : s.Seated) {playerId : PlayerId}
    (hplayerId : playerId = s.room.nextPlayerId ∨
      s.room.nextPlayerId ≠ 0 ∧ playerId = s.room.followingPlayerId) :
    { s with room := { s.room with nextPlayerId := playerId } }.Seated := by
  refine .of_numbered ?_ h.roomId h.assigned (h.numbered.refused hplayerId)
  exact ⟨h.consistent.roster, ⟨h.consistent.phase.known, h.consistent.phase.waiting,
    h.consistent.phase.attacking, h.consistent.phase.gameTimer, h.consistent.phase.switchTimer,
    h.consistent.phase.noWinnerYet, h.consistent.phase.idle, h.consistent.phase.noScores,
    h.consistent.phase.winner⟩⟩

omit [Field K] [LinearOrder K] [SessionObject ρ] in
/-- The side the histories keep of a player. -/
theorem side_of_seats (r : Room K ρ) (sessionId : SessionId) :
    (r.findPlayer sessionId).elim PlayerSide.none (·.state.side) =
      (r.seats.find? fun seat => seat.key = sessionId).elim PlayerSide.none (·.side) := by
  rw [Room.findPlayer, Room.seats, List.find?_map, Option.elim_map, Option.elim_map]
  rfl

/-- **Entering** gives the new player a seat of its own. -/
theorem Seated.entered [DecidableEq ρ] (h : s.Seated) {session : ρ} {r' : Room K ρ}
    (hconsistent : r'.Consistent) (hentered : s.room.Entered session r') :
    (s.recordEntry session s.room.nextPlayerId r').Seated ∧
      (s.recordEntry session s.room.nextPlayerId r').assigned session =
        some (s.room.nextPlayerId, s.room.freeSide) := by
  have hnumbered := h.numbered.entered hentered
  -- the other seats are the old ones, up to their inputs
  have htags : r'.seats.map Seat.tag =
      s.room.seats.map Seat.tag ++ [(s.room.newSeat session).tag] := hentered.tags
  obtain ⟨hadmits, hroom, hnext, -⟩ := hentered
  have hmem : ∀ seat' ∈ r'.seats, (∃ seat ∈ s.room.seats, seat.tag = seat'.tag) ∨
      seat'.tag = (s.room.newSeat session).tag := by
    intro seat' hseat'
    have hin := List.mem_map_of_mem (f := Seat.tag) hseat'
    rw [htags] at hin
    rcases List.mem_append.mp hin with hin | hin
    · exact Or.inl (List.mem_map.mp hin)
    · exact Or.inr (List.mem_singleton.mp hin)
  have hothers : ∀ seat ∈ s.room.seats, seat.key ≠ SessionObject.getId session := by
    intro seat hseat
    obtain ⟨entry, hentry, rfl⟩ := Room.mem_seats.mp hseat
    exact hadmits.new entry hentry
  have hside : (r'.findPlayer (SessionObject.getId session)).elim PlayerSide.none (·.state.side) =
      s.room.freeSide := by
    have hfind : (r'.seats.map Seat.tag).find? (fun tag => tag.1 = SessionObject.getId session) =
        some (s.room.newSeat session).tag := by
      rw [htags, List.find?_append, List.find?_eq_none.mpr]
      · simp [Seat.tag, Room.newSeat]
      · intro tag htag
        obtain ⟨seat, hseat, rfl⟩ := List.mem_map.mp htag
        simp [Seat.tag, hothers seat hseat]
    rw [List.find?_map] at hfind
    obtain ⟨seat, hseat, htag⟩ := Option.map_eq_some_iff.mp hfind
    have hseat' : r'.seats.find? (fun seat => seat.key = SessionObject.getId session) =
        some seat := hseat
    rw [side_of_seats, hseat']
    exact congrArg (·.2.2.2) htag
  have hassigned : (s.recordEntry session s.room.nextPlayerId r').assigned session =
      some (s.room.nextPlayerId, s.room.freeSide) := by
    simp only [recordEntry, Function.update_self, hside]
  refine ⟨.of_numbered hconsistent (hroom.trans h.roomId) ?_ hnumbered, hassigned⟩
  intro seat' hseat'
  rcases hmem seat' hseat' with ⟨seat, hseat, htag⟩ | htag
  · obtain ⟨hkey, hid, hsession, hside'⟩ : seat.key = seat'.key ∧
      seat.playerId = seat'.playerId ∧ seat.session = seat'.session ∧ seat.side = seat'.side := by
        simpa [Seat.tag] using htag
    obtain ⟨other, hother, hotherKey, hotherAssigned⟩ := h.assigned seat hseat
    have hne : other ≠ session := by
      rintro rfl
      exact hothers seat hseat hotherKey
    refine ⟨other, hsession.symm.trans hother, hkey.symm.trans hotherKey, ?_⟩
    simp only [recordEntry]
    rw [Function.update_of_ne hne, hotherAssigned, hid, hside']
  · obtain ⟨hkey, hid, hsession, hside'⟩ : seat'.key = SessionObject.getId session ∧
      seat'.playerId = s.room.nextPlayerId ∧ seat'.session = some session ∧
        seat'.side = s.room.freeSide := by simpa [Seat.tag, Room.newSeat] using htag
    exact ⟨session, hsession, hkey, by rw [hassigned, hid, hside']⟩

end Seated

end Server

/-! ## Snapshots -/

/-- A snapshot that shows a player with a given id, on a given side. -/
def Shows (snapshot : WorldStateSnapshot FloatBits) (playerId : PlayerId) (side : PlayerSide) :
    Prop :=
  ∃ player, snapshot.players.find? (fun player => player.playerId = playerId) = some player ∧
    player.side = side

/-- **A snapshot shows every player on its side.** -/
theorem shows_captureSnapshot [Field K] [LinearOrder K] {r : Room K ρ}
    (hdistinct : (r.seats.map (·.playerId)).Nodup) (serverTick : ServerTick)
    (toFloat : K → FloatBits) {seat : Seat K ρ} (hseat : seat ∈ r.seats) :
    Shows ((r.captureSnapshot serverTick).map toFloat) seat.playerId seat.side := by
  -- whatever is in the snapshot comes from a player of the room
  have hmem : ∀ player, player ∈ ((r.captureSnapshot serverTick).map toFloat).players ↔
      ∃ entry ∈ r.players,
        ((Room.snapshotPlayer (r.gameState == .playing) entry.2).map toFloat) = player := by
    intro player
    simp [WorldStateSnapshot.map, Room.captureSnapshot, List.mem_insertionSort]
  obtain ⟨entry, hentry, rfl⟩ := Room.mem_seats.mp hseat
  have hin := (hmem _).mpr ⟨entry, hentry, rfl⟩
  have hfound : (((r.captureSnapshot serverTick).map toFloat).players.find?
      fun player => player.playerId = (seatOf entry).playerId).isSome = true :=
    List.find?_isSome.mpr ⟨_, hin, decide_eq_true rfl⟩
  obtain ⟨player, hfind⟩ := Option.isSome_iff_exists.mp hfound
  refine ⟨player, hfind, ?_⟩
  obtain ⟨entry', hentry', rfl⟩ := (hmem player).mp (List.mem_of_find?_eq_some hfind)
  have htrue := List.find?_some hfind
  have hid : (seatOf entry').playerId = (seatOf entry).playerId := of_decide_eq_true htrue
  have hsame : seatOf entry' = seatOf entry := List.inj_on_of_nodup_map hdistinct
    (Room.mem_seats.mpr ⟨entry', hentry', rfl⟩) (Room.mem_seats.mpr ⟨entry, hentry, rfl⟩) hid
  exact congrArg Seat.side hsame

end NetworkArena.Server
