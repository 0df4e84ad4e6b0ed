/-
# NetworkArena.Shared.WorldStateFormat -- the world state format is a bijection

`WorldStateSnapshot.bytes` states the wire format as a concatenation, without offsets. The encoder
is shown to produce exactly these bytes on exactly the valid snapshots, and the decoder to accept
exactly these bytes and return the snapshot they came from. Everything said about the format
follows from `encodeWorldStateSnapshotPayload_eq` and `decodeWorldStateSnapshotPayload_eq`.

A payload of unknown origin is handled through the same two lemmas: any 33 bytes are the fixed part
of some snapshot (`exists_fixedBytes`), and any multiple of 25 bytes is some list of players
(`exists_players`).
-/
import NetworkArena.Shared.WorldStateSnapshot

namespace NetworkArena.Shared

open NetworkArena.Foundation
open NetworkArena.Foundation.BigEndian

/-! ## Valid snapshots -/

/-- A player the format can carry: a real id, an assigned side, finite floats. -/
structure PlayerStateSnapshot.Valid (state : PlayerStateSnapshot FloatBits) : Prop where
  playerId : state.playerId ≠ 0
  side : state.side = .flame ∨ state.side = .frost
  positionX : state.positionX.isFinite
  positionY : state.positionY.isFinite
  positionZ : state.positionZ.isFinite
  directionX : state.directionX.isFinite
  directionY : state.directionY.isFinite

/-- A snapshot the format can carry. -/
structure WorldStateSnapshot.Valid (s : WorldStateSnapshot FloatBits) : Prop where
  serverTick : s.serverTick ≠ 0
  roomId : s.roomId ≠ 0
  gamePlayState : s.gamePlayState = .waiting ∨ s.gamePlayState = .playing ∨
    s.gamePlayState = .finished
  attackingSide : s.attackingSide = .none ∨ s.attackingSide = .flame ∨ s.attackingSide = .frost
  winningSide : s.winningSide = .none ∨ s.winningSide = .flame ∨ s.winningSide = .frost
  gameRemaining : s.gameRemainingSeconds.isFinite ∧ s.gameRemainingSeconds.belowZero = false
  switchRemaining : s.attackRoleSwitchRemainingSeconds.isFinite ∧
    s.attackRoleSwitchRemainingSeconds.belowZero = false
  playerCount : s.players.length ≤ maxWorldStateSnapshotPlayerCount
  players : ∀ state ∈ s.players, state.Valid

theorem isInvalidPlayer_eq_false {state : PlayerStateSnapshot FloatBits} :
    isInvalidPlayer state = false ↔ state.Valid := by
  simp only [isInvalidPlayer, isAssignedPlayerSide, isFinitePlayerStateSnapshot,
    Bool.or_eq_false_iff, Bool.not_eq_false', Bool.and_eq_true, Bool.or_eq_true, beq_iff_eq,
    beq_eq_false_iff_ne]
  constructor
  · rintro ⟨⟨hid, hside⟩, ⟨⟨⟨hx, hy⟩, hz⟩, hdx⟩, hdy⟩
    exact ⟨hid, hside, hx, hy, hz, hdx, hdy⟩
  · rintro ⟨hid, hside, hx, hy, hz, hdx, hdy⟩
    exact ⟨⟨hid, hside⟩, ⟨⟨⟨hx, hy⟩, hz⟩, hdx⟩, hdy⟩

theorem any_isInvalidPlayer {players : List (PlayerStateSnapshot FloatBits)} :
    players.any isInvalidPlayer = false ↔ ∀ state ∈ players, state.Valid := by
  simp only [List.any_eq_false, Bool.not_eq_true, isInvalidPlayer_eq_false]

/-- The checks of the fixed part, as the encoder and the decoder both make them. -/
def WorldStateSnapshot.fixedPartOk (s : WorldStateSnapshot FloatBits) : Bool :=
  !(s.serverTick == 0 || s.roomId == 0) && !hasInvalidGameFields s

/-- **The checks of the source are the valid snapshots.** -/
theorem WorldStateSnapshot.valid_iff (s : WorldStateSnapshot FloatBits) :
    s.Valid ↔ s.fixedPartOk = true ∧ s.players.length ≤ maxWorldStateSnapshotPlayerCount ∧
      s.players.any isInvalidPlayer = false := by
  rw [any_isInvalidPlayer]
  simp only [WorldStateSnapshot.fixedPartOk, hasInvalidGameFields, isValidGamePlayState,
    isValidPlayerSide, isFiniteWorldStateSnapshot, Bool.and_eq_true, Bool.not_eq_true',
    Bool.or_eq_false_iff, Bool.not_eq_false', Bool.or_eq_true, beq_iff_eq, beq_eq_false_iff_ne]
  constructor
  · rintro ⟨htick, hroom, hphase, hattack, hwin, ⟨hgf, hgz⟩, ⟨hsf, hsz⟩, hcount, hplayers⟩
    refine ⟨⟨⟨htick, hroom⟩, ⟨⟨⟨⟨?_, ?_⟩, ?_⟩, hgf, hsf⟩, hgz⟩, hsz⟩, hcount, hplayers⟩
    · rwa [or_assoc]
    · rwa [or_assoc]
    · rwa [or_assoc]
  · rintro ⟨⟨⟨htick, hroom⟩, ⟨⟨⟨⟨hphase, hattack⟩, hwin⟩, hgf, hsf⟩, hgz⟩, hsz⟩, hcount, hplayers⟩
    rw [or_assoc] at hphase hattack hwin
    exact ⟨htick, hroom, hphase, hattack, hwin, ⟨hgf, hgz⟩, ⟨hsf, hsz⟩, hcount, hplayers⟩

/-! ## The layout -/

/-- The 25 bytes of one player. -/
def PlayerStateSnapshot.bytes (state : PlayerStateSnapshot FloatBits) : List UInt8 :=
  be32 state.playerId ++ ([state.side.value] ++ (be32 state.positionX.pattern ++
    (be32 state.positionY.pattern ++ (be32 state.positionZ.pattern ++
      (be32 state.directionX.pattern ++ be32 state.directionY.pattern)))))

@[simp]
theorem PlayerStateSnapshot.bytes_length (state : PlayerStateSnapshot FloatBits) :
    state.bytes.length = playerStateSnapshotSize := rfl

/-- The bytes of all players. -/
def playersBytes (players : List (PlayerStateSnapshot FloatBits)) : List UInt8 :=
  players.flatMap PlayerStateSnapshot.bytes

@[simp]
theorem playersBytes_length (players : List (PlayerStateSnapshot FloatBits)) :
    (playersBytes players).length = players.length * playerStateSnapshotSize := by
  induction players with
  | nil => rfl
  | cons state players ih =>
      simp only [playersBytes, List.flatMap_cons, List.length_append, List.length_cons,
        PlayerStateSnapshot.bytes_length] at ih ⊢
      rw [ih, Nat.succ_mul, Nat.add_comm]

/-- The 33 bytes in front of the players, with the player count as the wire has it. -/
def WorldStateSnapshot.fixedBytes (s : WorldStateSnapshot FloatBits) (count : UInt16) :
    List UInt8 :=
  be64 s.serverTick ++ (be32 s.roomId ++ ([s.gamePlayState.value] ++ ([s.attackingSide.value] ++
    ([s.winningSide.value] ++ (be32 s.gameRemainingSeconds.pattern ++
      (be32 s.attackRoleSwitchRemainingSeconds.pattern ++ (be32 s.flameScore ++
        (be32 s.frostScore ++ be16 count))))))))

@[simp]
theorem WorldStateSnapshot.fixedBytes_length (s : WorldStateSnapshot FloatBits) (count : UInt16) :
    (s.fixedBytes count).length = worldStateSnapshotFixedPayloadSize := rfl

/-- The wire form of a snapshot. -/
def WorldStateSnapshot.bytes (s : WorldStateSnapshot FloatBits) : List UInt8 :=
  s.fixedBytes (UInt16.ofNat s.players.length) ++ playersBytes s.players

theorem WorldStateSnapshot.bytes_length (s : WorldStateSnapshot FloatBits) :
    s.bytes.length =
      worldStateSnapshotFixedPayloadSize + s.players.length * playerStateSnapshotSize := by
  simp [WorldStateSnapshot.bytes]

/-- Any 25 bytes are one player. -/
theorem exists_player {bytes : List UInt8} (h : playerStateSnapshotSize ≤ bytes.length) :
    ∃ state : PlayerStateSnapshot FloatBits, ∃ rest, bytes = state.bytes ++ rest := by
  simp only [playerStateSnapshotSize] at h
  obtain ⟨playerId, rest, rfl⟩ := exists_be32 (show 4 ≤ bytes.length by omega)
  obtain ⟨side, rest, rfl⟩ := exists_byte (show 1 ≤ rest.length by simp at h; omega)
  obtain ⟨positionX, rest, rfl⟩ := exists_be32 (show 4 ≤ rest.length by simp at h; omega)
  obtain ⟨positionY, rest, rfl⟩ := exists_be32 (show 4 ≤ rest.length by simp at h; omega)
  obtain ⟨positionZ, rest, rfl⟩ := exists_be32 (show 4 ≤ rest.length by simp at h; omega)
  obtain ⟨directionX, rest, rfl⟩ := exists_be32 (show 4 ≤ rest.length by simp at h; omega)
  obtain ⟨directionY, rest, rfl⟩ := exists_be32 (show 4 ≤ rest.length by simp at h; omega)
  exact ⟨⟨playerId, ⟨side⟩, ⟨positionX⟩, ⟨positionY⟩, ⟨positionZ⟩, ⟨directionX⟩, ⟨directionY⟩⟩,
    rest, by simp [PlayerStateSnapshot.bytes]⟩

/-- Any multiple of 25 bytes is a list of players. -/
theorem exists_players (n : ℕ) :
    ∀ {bytes : List UInt8}, bytes.length = n * playerStateSnapshotSize →
      ∃ players : List (PlayerStateSnapshot FloatBits),
        players.length = n ∧ bytes = playersBytes players := by
  induction n with
  | zero =>
      intro bytes h
      rw [Nat.zero_mul, List.length_eq_zero_iff] at h
      exact ⟨[], rfl, h⟩
  | succ n ih =>
      intro bytes h
      rw [Nat.succ_mul] at h
      obtain ⟨state, rest, rfl⟩ := exists_player (show playerStateSnapshotSize ≤ bytes.length by
        omega)
      rw [List.length_append, PlayerStateSnapshot.bytes_length] at h
      obtain ⟨players, hlen, rfl⟩ := ih (show rest.length = _ by omega)
      exact ⟨state :: players, by simp [hlen], rfl⟩

/-- Any 33 bytes are the fixed part of a snapshot. -/
theorem exists_fixedBytes {bytes : List UInt8}
    (h : worldStateSnapshotFixedPayloadSize ≤ bytes.length) :
    ∃ s : WorldStateSnapshot FloatBits, ∃ count rest,
      s.players = [] ∧ bytes = s.fixedBytes count ++ rest := by
  simp only [worldStateSnapshotFixedPayloadSize] at h
  obtain ⟨serverTick, rest, rfl⟩ := exists_be64 (show 8 ≤ bytes.length by omega)
  obtain ⟨roomId, rest, rfl⟩ := exists_be32 (show 4 ≤ rest.length by simp at h; omega)
  obtain ⟨phase, rest, rfl⟩ := exists_byte (show 1 ≤ rest.length by simp at h; omega)
  obtain ⟨attacking, rest, rfl⟩ := exists_byte (show 1 ≤ rest.length by simp at h; omega)
  obtain ⟨winning, rest, rfl⟩ := exists_byte (show 1 ≤ rest.length by simp at h; omega)
  obtain ⟨game, rest, rfl⟩ := exists_be32 (show 4 ≤ rest.length by simp at h; omega)
  obtain ⟨switch, rest, rfl⟩ := exists_be32 (show 4 ≤ rest.length by simp at h; omega)
  obtain ⟨flame, rest, rfl⟩ := exists_be32 (show 4 ≤ rest.length by simp at h; omega)
  obtain ⟨frost, rest, rfl⟩ := exists_be32 (show 4 ≤ rest.length by simp at h; omega)
  obtain ⟨count, rest, rfl⟩ := exists_be16 (show 2 ≤ rest.length by simp at h; omega)
  exact ⟨⟨serverTick, roomId, ⟨phase⟩, ⟨attacking⟩, ⟨winning⟩, ⟨game⟩, ⟨switch⟩, flame, frost, []⟩,
    count, rest, rfl, by simp [WorldStateSnapshot.fixedBytes]⟩

/-! ## The encoder produces the layout -/

/-- The player loop, from any offset: it appends the players' bytes, or clears the payload. -/
theorem encodePlayers_eq (players : List (PlayerStateSnapshot FloatBits)) :
    ∀ (pre : List UInt8) {offset : ℕ}, offset = pre.length →
      encodePlayers players
          (pre ++ List.replicate (players.length * playerStateSnapshotSize) 0) offset =
        .ok (if players.any isInvalidPlayer then (false, [])
          else (true, pre ++ playersBytes players)) := by
  induction players with
  | nil =>
      intro pre offset _
      simp [encodePlayers, playersBytes]
  | cons state players ih =>
      intro pre offset hoff
      by_cases hbad : isInvalidPlayer state = true
      · simp [encodePlayers, hbad]
      · have hsize : (state :: players).length * playerStateSnapshotSize =
            4 + (1 + (4 + (4 + (4 + (4 + (4 + players.length * playerStateSnapshotSize)))))) := by
          simp only [List.length_cons, playerStateSnapshotSize]
          omega
        rw [encodePlayers, if_neg hbad, hsize]
        dsimp only
        -- each write extends the written prefix; the offset is always its length
        rw [writeUint32_extend pre _ _ hoff, Checked.ok_bind,
          writeUint8_extend _ _ _ (by simp [hoff]), Checked.ok_bind,
          writeFloat32_extend _ _ _ (by simp [hoff]), Checked.ok_bind,
          writeFloat32_extend _ _ _ (by simp [hoff]), Checked.ok_bind,
          writeFloat32_extend _ _ _ (by simp [hoff]), Checked.ok_bind,
          writeFloat32_extend _ _ _ (by simp [hoff]), Checked.ok_bind,
          writeFloat32_extend _ _ _ (by simp [hoff]), Checked.ok_bind,
          ih _ (by simp [hoff])]
        simp [hbad, playersBytes, PlayerStateSnapshot.bytes]

/-- **The encoder**: the layout on the valid snapshots, an empty payload on all others. -/
theorem encodeWorldStateSnapshotPayload_eq (s : WorldStateSnapshot FloatBits) :
    encodeWorldStateSnapshotPayload s =
      .ok (if s.fixedPartOk ∧ s.players.length ≤ maxWorldStateSnapshotPlayerCount ∧
          s.players.any isInvalidPlayer = false
        then (true, s.bytes) else (false, [])) := by
  rw [encodeWorldStateSnapshotPayload]
  by_cases hids : (s.serverTick == 0 || s.roomId == 0) = true
  · simp [hids, WorldStateSnapshot.fixedPartOk]
  by_cases hfields : hasInvalidGameFields s = true
  · simp [hfields, WorldStateSnapshot.fixedPartOk]
  by_cases hcount : s.players.length > maxWorldStateSnapshotPlayerCount
  · simp [hcount]
  have hfixed : s.fixedPartOk = true := by simp [WorldStateSnapshot.fixedPartOk, hids, hfields]
  have hsize : worldStateSnapshotFixedPayloadSize + s.players.length * playerStateSnapshotSize =
      8 + (4 + (1 + (1 + (1 + (4 + (4 + (4 + (4 + (2 +
        s.players.length * playerStateSnapshotSize))))))))) := by
    simp only [worldStateSnapshotFixedPayloadSize]
    omega
  have hstart := writeUint64_extend [] s.serverTick (4 + (1 + (1 + (1 + (4 + (4 + (4 + (4 + (2 +
    s.players.length * playerStateSnapshotSize))))))))) (show 0 = _ from rfl)
  rw [List.nil_append, List.nil_append] at hstart
  rw [if_neg hids, if_neg hfields, if_neg hcount]
  dsimp only
  rw [hsize, hstart, Checked.ok_bind,
    writeUint32_extend _ _ _ (by simp), Checked.ok_bind,
    writeUint8_extend _ _ _ (by simp), Checked.ok_bind,
    writeUint8_extend _ _ _ (by simp), Checked.ok_bind,
    writeUint8_extend _ _ _ (by simp), Checked.ok_bind,
    writeFloat32_extend _ _ _ (by simp), Checked.ok_bind,
    writeFloat32_extend _ _ _ (by simp), Checked.ok_bind,
    writeUint32_extend _ _ _ (by simp), Checked.ok_bind,
    writeUint32_extend _ _ _ (by simp), Checked.ok_bind,
    writeUint16_extend _ _ _ (by simp), Checked.ok_bind,
    encodePlayers_eq _ _ (by simp)]
  by_cases hplayers : s.players.any isInvalidPlayer = true
  · simp [hplayers]
  · simp [hplayers, hfixed, Nat.not_lt.mp hcount, WorldStateSnapshot.bytes,
      WorldStateSnapshot.fixedBytes]

/-! ## The decoder reads the layout -/

/-- The player loop of the decoder, behind any prefix. -/
theorem decodePlayers_eq (players : List (PlayerStateSnapshot FloatBits)) :
    ∀ (pre : List UInt8) {offset : ℕ}, offset = pre.length →
      decodePlayers (pre ++ playersBytes players) players.length offset =
        .ok (if players.any isInvalidPlayer then none else some players) := by
  induction players with
  | nil =>
      intro pre offset _
      simp [decodePlayers]
  | cons state players ih =>
      intro pre offset hoff
      have hread : ∀ k, decodePlayers (pre ++ playersBytes (state :: players)) k (offset + 25) =
          decodePlayers ((pre ++ state.bytes) ++ playersBytes players) k (offset + 25) := by
        intro k
        simp [playersBytes]
      have hrest := ih (pre ++ state.bytes) (show offset + 25 = _ by
        simp [hoff, playerStateSnapshotSize])
      rw [List.length_cons, decodePlayers]
      simp only [Nat.add_assoc, Nat.reduceAdd, hread, hrest]
      -- the seven reads, each behind the fields in front of it
      simp only [playersBytes, List.flatMap_cons, PlayerStateSnapshot.bytes, List.append_assoc]
      rw [readUint32_append pre _ _ hoff, Checked.ok_bind,
        ← List.append_assoc pre, List.singleton_append,
        readUint8_append _ _ _ (by simp [hoff]), Checked.ok_bind,
        List.append_cons (pre ++ be32 state.playerId),
        readFloat32_append _ _ _ (by simp [hoff]), Checked.ok_bind,
        ← List.append_assoc (_ ++ [state.side.value]),
        readFloat32_append _ _ _ (by simp [hoff]), Checked.ok_bind,
        ← List.append_assoc (_ ++ be32 state.positionX.pattern),
        readFloat32_append _ _ _ (by simp [hoff]), Checked.ok_bind,
        ← List.append_assoc (_ ++ be32 state.positionY.pattern),
        readFloat32_append _ _ _ (by simp [hoff]), Checked.ok_bind,
        ← List.append_assoc (_ ++ be32 state.positionZ.pattern),
        readFloat32_append _ _ _ (by simp [hoff]), Checked.ok_bind]
      by_cases hbad : isInvalidPlayer state = true
      · simp [hbad]
      · by_cases hplayers : players.any isInvalidPlayer = true <;> simp [hbad, hplayers]

/-- What the decoder returns once the fixed part is split off. -/
def decodedFrom (s : WorldStateSnapshot FloatBits) (count : UInt16) (rest : List UInt8)
    (snapshot : WorldStateSnapshot FloatBits) : Checked (Bool × WorldStateSnapshot FloatBits) :=
  if s.fixedPartOk = true ∧ count.toNat ≤ maxWorldStateSnapshotPlayerCount ∧
      rest.length = count.toNat * playerStateSnapshotSize then do
    match ← decodePlayers (s.fixedBytes count ++ rest) count.toNat
        worldStateSnapshotFixedPayloadSize with
    | none => return (false, snapshot)
    | some players => return (true, { s with players := players })
  else
    return (false, snapshot)

/-- The decoder behind its fixed part. -/
theorem decode_fixedBytes (s : WorldStateSnapshot FloatBits) (hs : s.players = [])
    (count : UInt16) (rest : List UInt8) (snapshot : WorldStateSnapshot FloatBits) :
    decodeWorldStateSnapshotPayload (s.fixedBytes count ++ rest) snapshot =
      decodedFrom s count rest snapshot := by
  have hlen : (s.fixedBytes count ++ rest).length =
      worldStateSnapshotFixedPayloadSize + rest.length := by simp
  have hshort : ¬ (s.fixedBytes count ++ rest).length < worldStateSnapshotFixedPayloadSize := by
    omega
  obtain ⟨tick, room, phase, attacking, winning, game, switch, flame, frost, players⟩ := s
  subst hs
  -- each read finds its field behind the bytes of the fields read before
  have htick := readUint64_append [] (be32 room ++ ([phase.value] ++ ([attacking.value] ++
    ([winning.value] ++ (be32 game.pattern ++ (be32 switch.pattern ++ (be32 flame ++
      (be32 frost ++ (be16 count ++ rest))))))))) tick (show 0 = _ from rfl)
  rw [List.nil_append] at htick
  rw [decodeWorldStateSnapshotPayload, if_neg hshort, hlen]
  simp only [Nat.reduceAdd]
  generalize hplayers : decodePlayers (WorldStateSnapshot.fixedBytes _ count ++ rest) = decodeRest
  simp only [WorldStateSnapshot.fixedBytes, List.append_assoc]
  rw [htick, Checked.ok_bind,
    readUint32_append (be64 tick) _ _ (by simp), Checked.ok_bind,
    ← List.append_assoc (be64 tick), List.singleton_append,
    readUint8_append _ _ _ (by simp), Checked.ok_bind,
    List.append_cons (be64 tick ++ be32 room), List.singleton_append,
    readUint8_append _ _ _ (by simp), Checked.ok_bind,
    List.append_cons (_ ++ [phase.value]), List.singleton_append,
    readUint8_append _ _ _ (by simp), Checked.ok_bind,
    List.append_cons (_ ++ [attacking.value]),
    readFloat32_append _ _ _ (by simp), Checked.ok_bind,
    ← List.append_assoc (_ ++ [winning.value]),
    readFloat32_append _ _ _ (by simp), Checked.ok_bind,
    ← List.append_assoc (_ ++ be32 game.pattern),
    readUint32_append _ _ _ (by simp), Checked.ok_bind,
    ← List.append_assoc (_ ++ be32 switch.pattern),
    readUint32_append _ _ _ (by simp), Checked.ok_bind,
    ← List.append_assoc (_ ++ be32 flame),
    readUint16_append _ _ _ (by simp), Checked.ok_bind]
  simp only [decodedFrom, WorldStateSnapshot.fixedPartOk, hplayers]
  by_cases hids : (tick == 0 || room == 0) = true
  · simp [hids]
  rw [if_neg hids]
  split
  · rename_i hfields
    simp [hfields]
  · rename_i hfields
    by_cases hcount : count.toNat > maxWorldStateSnapshotPlayerCount
    · simp [hcount]
    by_cases hrest : rest.length = count.toNat * playerStateSnapshotSize
    -- the count agrees with the length, so the decoder goes on to the players
    · have hlength : ¬ worldStateSnapshotFixedPayloadSize + rest.length ≠
          worldStateSnapshotFixedPayloadSize + count.toNat * playerStateSnapshotSize := by
        rw [hrest]
        exact not_not_intro rfl
      have hfields' : hasInvalidGameFields ⟨tick, room, phase, attacking, winning, game, switch,
          flame, frost, []⟩ = false := by simpa using hfields
      rw [if_neg hcount, if_neg hlength,
        if_pos ⟨by simp [hids, hfields'], Nat.not_lt.mp hcount, hrest⟩]
      rfl
    · simp [hcount, hrest]

/-- The decoder behind its fixed part, when what follows is a list of players. -/
theorem decodedFrom_players (s : WorldStateSnapshot FloatBits) (count : UInt16)
    (players : List (PlayerStateSnapshot FloatBits)) (hcount : players.length = count.toNat)
    (snapshot : WorldStateSnapshot FloatBits) :
    decodedFrom s count (playersBytes players) snapshot =
      .ok (if s.fixedPartOk = true ∧ players.length ≤ maxWorldStateSnapshotPlayerCount ∧
          players.any isInvalidPlayer = false
        then (true, { s with players := players }) else (false, snapshot)) := by
  have hread := decodePlayers_eq players (s.fixedBytes count)
    (show worldStateSnapshotFixedPayloadSize = _ by simp)
  rw [hcount] at hread
  rw [decodedFrom, playersBytes_length, hcount]
  by_cases hok : s.fixedPartOk = true ∧ count.toNat ≤ maxWorldStateSnapshotPlayerCount
  · rw [if_pos ⟨hok.1, hok.2, rfl⟩, hread, Checked.ok_bind]
    by_cases hplayers : players.any isInvalidPlayer = true <;> simp [hok, hplayers]
  · rw [if_neg (fun h => hok ⟨h.1, h.2.1⟩), if_neg (fun h => hok ⟨h.1, h.2.1⟩)]
    rfl

/-- A decoder that does not stop at a player leaves its output alone. -/
theorem decodedFrom_bad_length (s : WorldStateSnapshot FloatBits) (count : UInt16)
    (rest : List UInt8) (h : rest.length ≠ count.toNat * playerStateSnapshotSize)
    (snapshot : WorldStateSnapshot FloatBits) :
    decodedFrom s count rest snapshot = .ok (false, snapshot) :=
  if_neg (fun hall => h hall.2.2)

/-- The player count of a snapshot that fits survives its 16 bit field. -/
theorem playerCount_toNat {n : ℕ} (h : n ≤ maxWorldStateSnapshotPlayerCount) :
    (UInt16.ofNat n).toNat = n := by
  have hmax : maxWorldStateSnapshotPlayerCount = 162 := by decide
  rw [UInt16.toNat_ofNat']
  omega

/-- **The decoder on the layout.** -/
theorem decode_bytes {s : WorldStateSnapshot FloatBits} (h : s.Valid)
    (snapshot : WorldStateSnapshot FloatBits) :
    decodeWorldStateSnapshotPayload s.bytes snapshot = .ok (true, s) := by
  obtain ⟨hfixed, hcount, hplayers⟩ := s.valid_iff.mp h
  have hlen := playerCount_toNat hcount
  have hbase : s.fixedBytes (UInt16.ofNat s.players.length) =
      { s with players := [] }.fixedBytes (UInt16.ofNat s.players.length) := rfl
  rw [WorldStateSnapshot.bytes, hbase, decode_fixedBytes _ rfl,
    decodedFrom_players _ _ _ hlen.symm]
  rw [if_pos ⟨hfixed, hcount, hplayers⟩]

/-- **The decoder on arbitrary bytes**: it stays inside the payload, leaves the output alone when
it refuses, and what it accepts is the layout of the valid snapshot it returns. -/
theorem decode_cases (payload : List UInt8) (snapshot : WorldStateSnapshot FloatBits) :
    decodeWorldStateSnapshotPayload payload snapshot = .ok (false, snapshot) ∨
      ∃ s : WorldStateSnapshot FloatBits, s.Valid ∧ payload = s.bytes ∧
        decodeWorldStateSnapshotPayload payload snapshot = .ok (true, s) := by
  by_cases hshort : payload.length < worldStateSnapshotFixedPayloadSize
  · exact Or.inl (if_pos hshort)
  obtain ⟨s, count, rest, hs, rfl⟩ := exists_fixedBytes (Nat.not_lt.mp hshort)
  by_cases hrest : rest.length = count.toNat * playerStateSnapshotSize
  · obtain ⟨players, hlen, rfl⟩ := exists_players count.toNat hrest
    by_cases hok : s.fixedPartOk = true ∧ players.length ≤ maxWorldStateSnapshotPlayerCount ∧
        players.any isInvalidPlayer = false
    · right
      have hvalid : { s with players := players }.Valid := WorldStateSnapshot.valid_iff _ |>.mpr hok
      have hcount : UInt16.ofNat players.length = count := by rw [hlen, UInt16.ofNat_toNat]
      have hbytes : s.fixedBytes count ++ playersBytes players =
          { s with players := players }.bytes := by
        rw [← hcount]
        rfl
      refine ⟨{ s with players := players }, hvalid, hbytes, ?_⟩
      rw [hbytes, decode_bytes hvalid]
    · left
      rw [decode_fixedBytes s hs, decodedFrom_players s count players hlen, if_neg hok]
  · left
    rw [decode_fixedBytes s hs, decodedFrom_bad_length s count rest hrest]

theorem encode_valid {s : WorldStateSnapshot FloatBits} (h : s.Valid) :
    encodeWorldStateSnapshotPayload s = .ok (true, s.bytes) := by
  rw [encodeWorldStateSnapshotPayload_eq, if_pos (s.valid_iff.mp h)]

theorem encode_invalid {s : WorldStateSnapshot FloatBits} (h : ¬ s.Valid) :
    encodeWorldStateSnapshotPayload s = .ok (false, []) := by
  rw [encodeWorldStateSnapshotPayload_eq, if_neg (fun hok => h (s.valid_iff.mpr hok))]

/-- A valid snapshot always fits into one message. -/
theorem bytes_fit {s : WorldStateSnapshot FloatBits} (h : s.Valid) :
    messageHeaderSize + s.bytes.length ≤ maxMessageSize := by
  have hmax : maxWorldStateSnapshotPlayerCount = 162 := by decide
  have hcount := h.playerCount
  rw [s.bytes_length]
  simp only [messageHeaderSize, worldStateSnapshotFixedPayloadSize, playerStateSnapshotSize,
    maxMessageSize]
  omega

/-- **THE FORMAT IS A BIJECTION** between the valid snapshots and the accepted payloads. Encoding
succeeds exactly on the valid snapshots, clears the payload otherwise, fits one message and is
undone by decoding. Decoding stays inside every payload, leaves its output alone when it refuses,
and is undone by encoding when it accepts. -/
theorem worldStateSnapshot_format_bijective :
    (∀ s : WorldStateSnapshot FloatBits, ∃ accepted payload,
      encodeWorldStateSnapshotPayload s = .ok (accepted, payload) ∧
      (accepted = true ↔ s.Valid) ∧
      (accepted = false → payload = []) ∧
      (accepted = true →
        (∀ snapshot, decodeWorldStateSnapshotPayload payload snapshot = .ok (true, s)) ∧
        ∃ message, encodeMessage .worldStateSnapshot payload = .ok (true, message) ∧
          message.length ≤ maxMessageSize)) ∧
    (∀ (payload : List UInt8) (snapshot : WorldStateSnapshot FloatBits), ∃ accepted decoded,
      decodeWorldStateSnapshotPayload payload snapshot = .ok (accepted, decoded) ∧
      (accepted = false → decoded = snapshot) ∧
      (accepted = true → encodeWorldStateSnapshotPayload decoded = .ok (true, payload))) := by
  constructor
  · intro s
    by_cases h : s.Valid
    · refine ⟨true, s.bytes, encode_valid h, ⟨fun _ => h, fun _ => rfl⟩, by simp, fun _ => ?_⟩
      refine ⟨decode_bytes h, messageBytes .worldStateSnapshot s.bytes, ?_, ?_⟩
      · rw [encodeMessage_eq, if_pos (bytes_fit h)]
      · rw [messageBytes_length]
        exact bytes_fit h
    · exact ⟨false, [], encode_invalid h, by simp [h], fun _ => rfl, by simp⟩
  · intro payload snapshot
    rcases decode_cases payload snapshot with hrefuse | ⟨s, hvalid, rfl, haccept⟩
    · exact ⟨false, snapshot, hrefuse, fun _ => rfl, by simp⟩
    · exact ⟨true, s, haccept, by simp, fun _ => encode_valid hvalid⟩

theorem decodeWorldStateSnapshotPayload_inBounds (payload : List UInt8)
    (snapshot : WorldStateSnapshot FloatBits) :
    (decodeWorldStateSnapshotPayload payload snapshot).InBounds := by
  rcases decode_cases payload snapshot with h | ⟨s, -, -, h⟩
  · exact ⟨_, h⟩
  · exact ⟨_, h⟩

theorem encodeWorldStateSnapshotPayload_inBounds (s : WorldStateSnapshot FloatBits) :
    (encodeWorldStateSnapshotPayload s).InBounds := by
  by_cases h : s.Valid
  · exact ⟨_, encode_valid h⟩
  · exact ⟨_, encode_invalid h⟩

end NetworkArena.Shared
