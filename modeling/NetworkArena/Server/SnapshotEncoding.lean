/-
# NetworkArena.Server.SnapshotEncoding -- every snapshot of the room is encoded

The encoder of snapshots refuses a whole snapshot for one bad field, and a tick whose snapshot is
refused tells the clients nothing. This never happens: the snapshot of a room is valid after any
operations. Ids are never zero and never shared (`Room.Numbered`), sides are always assigned, timers
stay between zero and their full length (`Phase`), and the numbers that are written are small, so
`float` has a finite value for each of them.
-/
import NetworkArena.Server.SpeedLimit

namespace NetworkArena.Server

open NetworkArena.Foundation
open NetworkArena.Shared

variable {K ρ ω : Type} [Field K] [LinearOrder K]

/-- What a snapshot says of the players of a room. -/
structure ListsPlayers (r : Room K ρ) (snapshot : WorldStateSnapshot K) : Prop where
  once : snapshot.players.Perm
    (r.players.map fun entry => Room.snapshotPlayer (r.gameState == .playing) entry.2)
  increasing : (snapshot.players.map (·.playerId)).Pairwise (· < ·)
  still : r.gameState ≠ .playing →
    ∀ player ∈ snapshot.players, player.directionX = 0 ∧ player.directionY = 0

/-- What is relied on of the conversion to `float`, on the numbers a room can hold: it finds a
finite value for a small number, and no negative one for a number that is not negative. -/
structure WritesFloats (toFloat : K → FloatBits) : Prop where
  finite : ∀ x, |x| ≤ 30 → (toFloat x).isFinite = true
  sign : ∀ x, 0 ≤ x → (toFloat x).belowZero = false

/-! ## The players of a snapshot -/

section Players

variable {r : Room K ρ}

theorem Room.Numbered.listsPlayers (h : r.Numbered) (serverTick : ServerTick) :
    ListsPlayers r (r.captureSnapshot serverTick) := by
  have hperm := r.captureSnapshot_perm serverTick
  refine ⟨hperm, ?_, ?_⟩
  · -- sorted by id, and no id comes twice
    have hdistinct : ((r.captureSnapshot serverTick).players.map (·.playerId)).Nodup :=
      (r.captureSnapshot_ids serverTick).nodup_iff.mpr h.distinct
    rw [List.pairwise_map]
    rw [List.Nodup, List.pairwise_map] at hdistinct
    refine ((r.captureSnapshot_sorted serverTick).and hdistinct).imp ?_
    rintro left right ⟨hle, hne⟩
    exact UInt32.lt_of_le_of_ne hle hne
  · intro hidle player hplayer
    obtain ⟨entry, -, rfl⟩ := List.mem_map.mp (hperm.subset hplayer)
    have hrunning : (r.gameState == GamePlayState.playing) = false := by simpa using hidle
    simp only [Room.snapshotPlayer, hrunning, Bool.false_eq_true, if_false, and_self]

variable [IsStrictOrderedRing K]

/-- **A player is written with a real id, an assigned side and small numbers.** -/
theorem snapshotPlayer_valid {toFloat : K → FloatBits} (htoFloat : WritesFloats toFloat)
    {player : Player K ρ} (gameRunning : Bool) (hid : player.playerId ≠ 0)
    (hside : player.state.side = .flame ∨ player.state.side = .frost)
    (harena : player.state.InArena) (hpaced : player.state.Paced) :
    ((Room.snapshotPlayer gameRunning player).map toFloat).Valid := by
  have hcoordinate : ∀ x : K, |x| ≤ 1 → |x| ≤ 30 := fun x hx => hx.trans (by norm_num)
  have hdirection : ∀ x : K, |x| ≤ 1 →
      (toFloat (if gameRunning then x else 0)).isFinite = true := by
    intro x hx
    apply htoFloat.finite
    split
    · exact hcoordinate x hx
    · rw [abs_zero]
      norm_num
  have hshown : Within 1 (if player.state.dashRemainingSeconds > 0 then
      (player.state.dashDirectionX, player.state.dashDirectionY)
      else (player.state.directionX, player.state.directionY)) := by
    split
    · exact hpaced.dashDirection
    · exact hpaced.direction
  obtain ⟨hminX, hmaxX, hminY, hmaxY, hplane⟩ := harena
  have hpositionX : |player.state.positionX| ≤ 30 := by
    rw [abs_le]
    constructor <;> linarith
  have hpositionY : |player.state.positionY| ≤ 30 := by
    rw [abs_le]
    constructor <;> linarith
  have hpositionZ : |player.state.positionZ| ≤ 30 := by
    rw [hplane, abs_zero]
    norm_num
  refine ⟨hid, hside, htoFloat.finite _ hpositionX, htoFloat.finite _ hpositionY,
    htoFloat.finite _ hpositionZ, hdirection _ hshown.abs_fst_le, hdirection _ hshown.abs_snd_le⟩

end Players

/-! ## The game of a snapshot -/

section Game

variable [IsStrictOrderedRing K] {r : Room K ρ}

/-- The timers of a room, whatever the phase. -/
theorem Phase.timers (h : Phase r) :
    (0 ≤ r.gameRemainingSeconds ∧ r.gameRemainingSeconds ≤ 30) ∧
      (0 ≤ r.attackRoleSwitchRemainingSeconds ∧ r.attackRoleSwitchRemainingSeconds ≤ 30) := by
  by_cases hplaying : r.gameState = .playing
  · have hgame := h.gameTimer hplaying
    have hswitch := h.switchTimer hplaying
    exact ⟨⟨hgame.1.le, hgame.2⟩, hswitch.1.le, hswitch.2.trans (by norm_num)⟩
  · obtain ⟨-, hgame, hswitch⟩ := h.idle hplaying
    rw [hgame, hswitch]
    norm_num

omit [IsStrictOrderedRing K] in
theorem Phase.sides (h : Phase r) :
    (r.attackingSide = .none ∨ r.attackingSide = .flame ∨ r.attackingSide = .frost) ∧
      (r.winningSide = .none ∨ r.winningSide = .flame ∨ r.winningSide = .frost) := by
  rcases h.known with hwaiting | hplaying | hfinished
  · exact ⟨Or.inl (h.idle (by rw [hwaiting]; decide)).1, Or.inl (h.noScores hwaiting).2.2⟩
  · exact ⟨Or.inr (h.attacking hplaying), Or.inl (h.noWinnerYet hplaying)⟩
  · refine ⟨Or.inl (h.idle (by rw [hfinished]; decide)).1, ?_⟩
    obtain ⟨hflame, hfrost, hnone⟩ := h.winner hfinished
    rcases lt_trichotomy r.sideScores.flame r.sideScores.frost with hless | hsame | hmore
    · exact Or.inr (Or.inr (hfrost.mpr hless))
    · exact Or.inl (hnone.mpr hsame)
    · exact Or.inr (Or.inl (hflame.mpr hmore))

/-- **The snapshot of a room is valid**, for what the room keeps to. -/
theorem Room.Consistent.captureSnapshot_valid {toFloat : K → FloatBits}
    (htoFloat : WritesFloats toFloat) (h : r.Consistent) (hnumbered : r.Numbered)
    (hpaced : r.Every PlayerState.Paced) (hroom : r.roomId ≠ 0) {serverTick : ServerTick}
    (htick : serverTick ≠ 0) : ((r.captureSnapshot serverTick).map toFloat).Valid := by
  have hlists := hnumbered.listsPlayers serverTick
  obtain ⟨⟨hgame₀, hgame₁⟩, hswitch₀, hswitch₁⟩ := h.phase.timers
  have hfinite : ∀ x : K, 0 ≤ x → x ≤ 30 →
      (toFloat x).isFinite = true ∧ (toFloat x).belowZero = false := fun x hx₀ hx₁ =>
    ⟨htoFloat.finite x (by rw [abs_of_nonneg hx₀]; exact hx₁), htoFloat.sign x hx₀⟩
  refine ⟨htick, hroom, h.phase.known, h.phase.sides.1, h.phase.sides.2, hfinite _ hgame₀ hgame₁,
    hfinite _ hswitch₀ hswitch₁, ?_, ?_⟩
  · have hlength : ((r.captureSnapshot serverTick).map toFloat).players.length =
        r.players.length := by
      rw [WorldStateSnapshot.map, List.length_map, hlists.once.length_eq, List.length_map]
    have hmax : 2 ≤ maxWorldStateSnapshotPlayerCount := by decide
    rw [hlength]
    exact h.roster.few.trans hmax
  · intro state hstate
    obtain ⟨player, hplayer, rfl⟩ := List.mem_map.mp hstate
    obtain ⟨entry, hentry, rfl⟩ := List.mem_map.mp (hlists.once.subset hplayer)
    refine snapshotPlayer_valid htoFloat _ ?_ (h.roster.sides entry hentry)
      (h.roster.inArena entry hentry) (hpaced entry hentry)
    exact (Room.numbered_iff.mp hnumbered).1 _ (Room.mem_seats.mpr ⟨entry, hentry, rfl⟩)

end Game

/-! ## Whole runs -/

section Runs

variable [IsStrictOrderedRing K] [FloorRing K] [HasSqrt K] [SessionObject ρ]

/-- A room keeps its id. -/
theorem Room.step_roomId (sessions : Room.Sessions ρ ω) (t : Room K ρ × ω)
    (event : RoomEvent K ρ ω) : (Room.step sessions t event).1.roomId = t.1.roomId := by
  cases event with
  | enter session =>
      cases session with
      | none => rfl
      | some session =>
          show (t.1.enter (some session)).2.roomId = _
          rcases t.1.enter_frame session with ⟨playerId, -, hrefused⟩ | ⟨r', henter, hentered⟩
          · rw [hrefused]
          · rw [henter]
            exact hentered.roomId
  | leave sessionId => exact (t.1.leave_frame sessionId).2.1
  | applyPlayerInput sessionId input => exact (t.1.applyPlayerInput_frame sessionId input).2.1
  | tick deltaSeconds => exact (t.1.tick_frame deltaSeconds).2.1
  | broadcast type payload =>
      exact Room.broadcast_induction (P := fun r => r.roomId = t.1.roomId)
        (fun r id h => (r.leave_frame id).2.1.trans h) sessions type payload t.2 rfl
  | sessions w => rfl

theorem Room.numbered_run (id : RoomId) (sessions : Room.Sessions ρ ω) (w : ω)
    (events : List (RoomEvent K ρ ω)) :
    (Room.run sessions (Room.create id, w) events).1.Numbered ∧
      (Room.run sessions (Room.create id, w) events).1.roomId = id := by
  induction events using List.reverseRecOn with
  | nil => exact ⟨⟨nofun, List.nodup_nil, Or.inr nofun⟩, rfl⟩
  | append_singleton events event ih =>
      rw [Room.run_concat]
      exact ⟨ih.1.step sessions event, (Room.step_roomId sessions _ event).trans ih.2⟩

/-- A tick whose snapshot is encoded broadcasts it. -/
theorem tickDefaultRoom_encoded {σ : Type} [DecidableEq ρ] (objects : SessionObjects ρ σ)
    {toFloat : K → FloatBits} {deltaSeconds : K} {s : Server K ρ} {payload : List UInt8}
    (hencoded : encodeWorldStateSnapshotPayload
      (((s.room.tick deltaSeconds).captureSnapshot s.serverTick).map toFloat) = .ok (true, payload))
    (v : σ) : s.tickDefaultRoom objects toFloat deltaSeconds v =
      let broadcast := (s.room.tick deltaSeconds).broadcast (Server.roomSessions objects)
        .worldStateSnapshot payload (s.sessions, v)
      ({ s with room := broadcast.1, sessions := broadcast.2.1 }, broadcast.2.2) := by
  unfold Server.tickDefaultRoom
  dsimp only
  rw [Checked.get_eq hencoded]
  rfl

variable [LawfulSqrt K]

/-- After any operations, the snapshot of a room is valid. -/
theorem Room.run_captureSnapshot_valid {toFloat : K → FloatBits} (htoFloat : WritesFloats toFloat)
    {id : RoomId} (hid : id ≠ 0) (sessions : Room.Sessions ρ ω) (w : ω)
    (events : List (RoomEvent K ρ ω)) {serverTick : ServerTick} (htick : serverTick ≠ 0) :
    (((Room.run sessions (Room.create id, w) events).1.captureSnapshot serverTick).map
      toFloat).Valid := by
  obtain ⟨hnumbered, hroom⟩ := Room.numbered_run (K := K) id sessions w events
  exact ((Room.consistent_create id).run sessions events).captureSnapshot_valid htoFloat hnumbered
    (Room.Every.run paced_kept id sessions w events) (by rw [hroom]; exact hid) htick

/-- **A tick's snapshot is never dropped by the encoder.** After any operations the snapshot of a
room passes every check of the encoder, and lists each player once, in the order of the ids, and
without a direction unless a game is played. So a tick of a server with such a room goes on to
broadcast what the encoder made. -/
theorem snapshot_never_dropped {toFloat : K → FloatBits} (htoFloat : WritesFloats toFloat)
    {id : RoomId} (hid : id ≠ 0) (sessions : Room.Sessions ρ ω) (w : ω)
    (events : List (RoomEvent K ρ ω)) {serverTick : ServerTick} (htick : serverTick ≠ 0)
    {r : Room K ρ}
    (hr : r = (Room.run sessions (Room.create id, w) events).1) :
    ((r.captureSnapshot serverTick).map toFloat).Valid ∧
    encodeWorldStateSnapshotPayload ((r.captureSnapshot serverTick).map toFloat) =
      .ok (true, ((r.captureSnapshot serverTick).map toFloat).bytes) ∧
    ListsPlayers r (r.captureSnapshot serverTick) ∧
    ∀ {σ : Type} [DecidableEq ρ] (objects : SessionObjects ρ σ) (s : Server K ρ) (v : σ)
      (deltaSeconds : K), s.room = r → s.serverTick = serverTick →
        ∃ payload, encodeWorldStateSnapshotPayload
            (((r.tick deltaSeconds).captureSnapshot serverTick).map toFloat) = .ok (true, payload) ∧
          s.tickDefaultRoom objects toFloat deltaSeconds v =
            let broadcast := (r.tick deltaSeconds).broadcast (Server.roomSessions objects)
              .worldStateSnapshot payload (s.sessions, v)
            ({ s with room := broadcast.1, sessions := broadcast.2.1 }, broadcast.2.2) := by
  have hvalid : ∀ events, (((Room.run sessions (Room.create id, w) events).1.captureSnapshot
      serverTick).map toFloat).Valid := fun events =>
    Room.run_captureSnapshot_valid htoFloat hid sessions w events htick
  have hnow := hvalid events
  rw [← hr] at hnow
  refine ⟨hnow, encode_valid hnow, ?_, ?_⟩
  · rw [hr]
    exact (Room.numbered_run id sessions w events).1.listsPlayers serverTick
  rintro σ _ objects s v deltaSeconds hroom rfl
  have hticked := hvalid (events ++ [.tick deltaSeconds])
  rw [Room.run_concat] at hticked
  change (((Room.tick (Room.run sessions (Room.create id, w) events).1
    deltaSeconds).captureSnapshot s.serverTick).map toFloat).Valid at hticked
  rw [← hr, ← hroom] at hticked
  rw [← hroom]
  exact ⟨_, encode_valid hticked, tickDefaultRoom_encoded objects (encode_valid hticked) v⟩

end Runs

/-- The `float` values of the numbers in a room whose game has just started. -/
def startFloat (x : K) : FloatBits :=
  if x = 30 then ⟨0x41F00000⟩
  else if x = 3 then ⟨0x40400000⟩
  else if x = 15 / 10 then ⟨0x3FC00000⟩
  else if x = -(15 / 10) then ⟨0xBFC00000⟩
  else .zero

theorem writesFloats_startFloat [IsStrictOrderedRing K] :
    WritesFloats (startFloat : K → FloatBits) where
  finite x _ := by
    unfold startFloat
    repeat' split
    all_goals decide
  sign x hx := by
    unfold startFloat
    split
    · decide
    split
    · decide
    split
    · decide
    split
    · next hnegative =>
        rw [hnegative] at hx
        norm_num at hx
    · decide

theorem snapshot_never_dropped_start :
    encodeWorldStateSnapshotPayload
        (((bothEntered : Room ℝ SessionId × Unit).1.captureSnapshot 1).map startFloat) =
      .ok (true, (((bothEntered : Room ℝ SessionId × Unit).1.captureSnapshot 1).map
        startFloat).bytes) :=
  (snapshot_never_dropped (K := ℝ) writesFloats_startFloat
    (show (1 : RoomId) ≠ 0 by decide) liveSessions ()
    [.enter (some 1), .enter (some 2)] (by decide) rfl).2.1

end NetworkArena.Server
