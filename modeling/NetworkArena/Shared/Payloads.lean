/-
# NetworkArena.Shared.Payloads -- the fixed-size payloads

`ping_message.h`, `player_identity_message.h` and `player_input_message.h`. Encoders and decoders
follow the source; each format then gets its layout (`bytes`) and the two equations that say what
its encoder and its decoder do with it.
-/
import NetworkArena.Shared.MessageCodec

namespace NetworkArena.Shared

open NetworkArena.Foundation
open NetworkArena.Foundation.BigEndian

/-! ## Ping -/

structure PingPayload where
  clientPingTxTimestampNanoseconds : UInt64 := 0
  deriving DecidableEq, Repr

def pingPayloadSize : ℕ := 8

def encodePingPayload (ping : PingPayload) : Checked (List UInt8) :=
  writeUint64 (List.replicate pingPayloadSize 0) 0 ping.clientPingTxTimestampNanoseconds

def decodePingPayload (payload : List UInt8) (decodedPing : PingPayload) :
    Checked (Bool × PingPayload) :=
  if payload.length ≠ pingPayloadSize then
    return (false, decodedPing)
  else do
    return (true, ⟨← readUint64 payload 0⟩)

/-- The wire form of a ping. -/
def PingPayload.bytes (ping : PingPayload) : List UInt8 :=
  be64 ping.clientPingTxTimestampNanoseconds

@[simp]
theorem PingPayload.bytes_length (ping : PingPayload) : ping.bytes.length = pingPayloadSize := rfl

theorem encodePingPayload_eq (ping : PingPayload) : encodePingPayload ping = .ok ping.bytes := by
  have h := writeUint64_extend [] ping.clientPingTxTimestampNanoseconds 0 (show 0 = _ from rfl)
  simpa [encodePingPayload, pingPayloadSize, PingPayload.bytes] using h

theorem decodePingPayload_bytes (ping ping₀ : PingPayload) :
    decodePingPayload ping.bytes ping₀ = .ok (true, ping) := by
  have h := readUint64_append [] [] ping.clientPingTxTimestampNanoseconds (show 0 = _ from rfl)
  simp only [List.nil_append, List.append_nil] at h
  rw [decodePingPayload, if_neg (by simp), PingPayload.bytes, h]
  rfl

/-- A ping decoder that accepts has read the wire form of what it returns. -/
theorem decodePingPayload_cases (payload : List UInt8) (ping₀ : PingPayload) :
    decodePingPayload payload ping₀ = .ok (false, ping₀) ∨
      ∃ ping : PingPayload, payload = ping.bytes ∧
        decodePingPayload payload ping₀ = .ok (true, ping) := by
  by_cases h : payload.length = pingPayloadSize
  · obtain ⟨v, rest, rfl⟩ := exists_be64 (show 8 ≤ payload.length from le_of_eq h.symm)
    have hrest : rest = [] := by simpa [pingPayloadSize] using h
    subst hrest
    have hbytes : be64 v ++ [] = (PingPayload.mk v).bytes := by rw [List.append_nil]; rfl
    rw [hbytes]
    exact Or.inr ⟨⟨v⟩, rfl, decodePingPayload_bytes _ _⟩
  · exact Or.inl (if_pos h)

theorem decodePingPayload_inBounds (payload : List UInt8) (ping₀ : PingPayload) :
    (decodePingPayload payload ping₀).InBounds := by
  rcases decodePingPayload_cases payload ping₀ with h | ⟨ping, -, h⟩
  · exact ⟨_, h⟩
  · exact ⟨_, h⟩

theorem decodePing_inBounds (payload : List UInt8) : (decodePingPayload payload {}).InBounds :=
  decodePingPayload_inBounds payload {}

/-! ## Player identity -/

structure PlayerIdentityPayload where
  roomId : RoomId := 0
  playerId : PlayerId := 0
  deriving DecidableEq, Repr

def playerIdentityPayloadSize : ℕ := 4 * 2

/-- The flag the source returns, and `payload`, which it fills in place. -/
def encodePlayerIdentityPayload (identity : PlayerIdentityPayload) (payload : List UInt8) :
    Checked (Bool × List UInt8) :=
  if identity.roomId == 0 || identity.playerId == 0 then
    return (false, payload)
  else do
    let payload ← writeUint32 payload 0 identity.roomId
    let payload ← writeUint32 payload 4 identity.playerId
    return (true, payload)

def decodePlayerIdentityPayload (payload : List UInt8) (identity : PlayerIdentityPayload) :
    Checked (Bool × PlayerIdentityPayload) :=
  if payload.length ≠ playerIdentityPayloadSize then
    return (false, identity)
  else do
    let roomId ← readUint32 payload 0
    let playerId ← readUint32 payload 4
    if roomId == 0 || playerId == 0 then
      return (false, identity)
    else
      return (true, ⟨roomId, playerId⟩)

/-- An identity the format can carry. -/
def PlayerIdentityPayload.Valid (identity : PlayerIdentityPayload) : Prop :=
  identity.roomId ≠ 0 ∧ identity.playerId ≠ 0

/-- The wire form of an identity. -/
def PlayerIdentityPayload.bytes (identity : PlayerIdentityPayload) : List UInt8 :=
  be32 identity.roomId ++ be32 identity.playerId

@[simp]
theorem PlayerIdentityPayload.bytes_length (identity : PlayerIdentityPayload) :
    identity.bytes.length = playerIdentityPayloadSize := rfl

/-- Whatever the array held before, it holds the wire form afterwards. -/
theorem encodePlayerIdentityPayload_over {identity : PlayerIdentityPayload} (h : identity.Valid)
    {payload : List UInt8} (hsize : payload.length = playerIdentityPayloadSize) :
    encodePlayerIdentityPayload identity payload = .ok (true, identity.bytes) := by
  have htake : (payload.take 4).length = 4 := by simp [hsize, playerIdentityPayloadSize]
  have hdrop : (payload.drop 4).length = 4 := by simp [hsize, playerIdentityPayloadSize]
  have hroom := writeUint32_over [] (payload.drop 4) identity.roomId htake (show 0 = _ from rfl)
  have hplayer := writeUint32_over (be32 identity.roomId) [] identity.playerId hdrop
    (show 4 = _ from rfl)
  rw [List.nil_append, List.take_append_drop, List.nil_append] at hroom
  rw [List.append_nil, List.append_nil] at hplayer
  rw [encodePlayerIdentityPayload, if_neg (by simpa [PlayerIdentityPayload.Valid] using h), hroom,
    Checked.ok_bind, hplayer]
  rfl

theorem encodePlayerIdentityPayload_invalid {identity : PlayerIdentityPayload}
    (h : ¬ identity.Valid) (payload : List UInt8) :
    encodePlayerIdentityPayload identity payload = .ok (false, payload) := by
  apply if_pos
  simpa [PlayerIdentityPayload.Valid, or_iff_not_imp_left] using h

theorem encodePlayerIdentityPayload_valid {identity : PlayerIdentityPayload}
    (h : identity.Valid) :
    encodePlayerIdentityPayload identity (List.replicate playerIdentityPayloadSize 0) =
      .ok (true, identity.bytes) :=
  encodePlayerIdentityPayload_over h List.length_replicate

theorem decodePlayerIdentityPayload_bytes {identity : PlayerIdentityPayload} (h : identity.Valid)
    (identity₀ : PlayerIdentityPayload) :
    decodePlayerIdentityPayload identity.bytes identity₀ = .ok (true, identity) := by
  have hroom := readUint32_append [] (be32 identity.playerId) identity.roomId
    (show 0 = _ from rfl)
  have hplayer := readUint32_append (be32 identity.roomId) [] identity.playerId
    (show 4 = _ from rfl)
  rw [List.nil_append] at hroom
  rw [List.append_nil] at hplayer
  rw [decodePlayerIdentityPayload, if_neg (by simp), PlayerIdentityPayload.bytes, hroom,
    Checked.ok_bind, hplayer, Checked.ok_bind,
    if_neg (by simpa [PlayerIdentityPayload.Valid] using h)]
  rfl

theorem decodePlayerIdentityPayload_cases (payload : List UInt8)
    (identity₀ : PlayerIdentityPayload) :
    decodePlayerIdentityPayload payload identity₀ = .ok (false, identity₀) ∨
      ∃ identity : PlayerIdentityPayload, identity.Valid ∧ payload = identity.bytes ∧
        decodePlayerIdentityPayload payload identity₀ = .ok (true, identity) := by
  by_cases h : payload.length = playerIdentityPayloadSize
  · have hlen : payload.length = 8 := h
    obtain ⟨roomId, rest, rfl⟩ := exists_be32 (show 4 ≤ payload.length by omega)
    obtain ⟨playerId, rest, rfl⟩ := exists_be32 (show 4 ≤ rest.length by simp at hlen; omega)
    have hrest : rest = [] := by
      simp at hlen
      exact List.length_eq_zero_iff.mp (by omega)
    subst hrest
    have hbytes : be32 roomId ++ (be32 playerId ++ []) =
        (PlayerIdentityPayload.mk roomId playerId).bytes := by rw [List.append_nil]; rfl
    rw [hbytes]
    by_cases hvalid : (PlayerIdentityPayload.mk roomId playerId).Valid
    · exact Or.inr ⟨_, hvalid, rfl, decodePlayerIdentityPayload_bytes hvalid _⟩
    · left
      have hroom := readUint32_append [] (be32 playerId) roomId (show 0 = _ from rfl)
      have hplayer := readUint32_append (be32 roomId) [] playerId (show 4 = _ from rfl)
      rw [List.nil_append] at hroom
      rw [List.append_nil] at hplayer
      have hzero : (roomId == 0 || playerId == 0) = true := by
        simpa [PlayerIdentityPayload.Valid, or_iff_not_imp_left] using hvalid
      rw [decodePlayerIdentityPayload, if_neg (by simp), PlayerIdentityPayload.bytes, hroom,
        Checked.ok_bind, hplayer, Checked.ok_bind, if_pos hzero]
      rfl
  · exact Or.inl (if_pos h)

theorem decodePlayerIdentityPayload_inBounds (payload : List UInt8)
    (identity₀ : PlayerIdentityPayload) :
    (decodePlayerIdentityPayload payload identity₀).InBounds := by
  rcases decodePlayerIdentityPayload_cases payload identity₀ with h | ⟨identity, -, -, h⟩
  · exact ⟨_, h⟩
  · exact ⟨_, h⟩

theorem encodePlayerIdentityPayload_inBounds (identity : PlayerIdentityPayload) :
    (encodePlayerIdentityPayload identity
      (List.replicate playerIdentityPayloadSize 0)).InBounds := by
  by_cases h : identity.Valid
  · exact ⟨_, encodePlayerIdentityPayload_valid h⟩
  · exact ⟨_, encodePlayerIdentityPayload_invalid h _⟩

/-! ## Player input -/

structure PlayerInputPayload where
  moveX : Int16 := 0
  moveY : Int16 := 0
  moveZ : Int16 := 0
  dash : Bool := false
  deriving DecidableEq, Repr

def playerInputPayloadSize : ℕ := 2 * 3 + 1

def maxPlayerInputAxisRawValue : Int16 := 1000

def isValidPlayerInputAxisRawValue (value : Int16) : Bool :=
  decide (value ≥ -maxPlayerInputAxisRawValue) && decide (value ≤ maxPlayerInputAxisRawValue)

def isValidPlayerInput (input : PlayerInputPayload) : Bool :=
  isValidPlayerInputAxisRawValue input.moveX && isValidPlayerInputAxisRawValue input.moveY &&
    isValidPlayerInputAxisRawValue input.moveZ

/-- The flag the source returns, and `payload`, which it zero-fills before the check. -/
def encodePlayerInputPayload (input : PlayerInputPayload) : Checked (Bool × List UInt8) :=
  let payload := List.replicate playerInputPayloadSize 0
  if !isValidPlayerInput input then
    return (false, payload)
  else do
    let payload ← writeUint16 payload 0 input.moveX.toUInt16
    let payload ← writeUint16 payload 2 input.moveY.toUInt16
    let payload ← writeUint16 payload 4 input.moveZ.toUInt16
    let payload ← writeUint8 payload 6 (if input.dash then 1 else 0)
    return (true, payload)

def decodePlayerInputPayload (payload : List UInt8) (input : PlayerInputPayload) :
    Checked (Bool × PlayerInputPayload) :=
  if payload.length ≠ playerInputPayloadSize then
    return (false, input)
  else do
    let moveX := (← readUint16 payload 0).toInt16
    let moveY := (← readUint16 payload 2).toInt16
    let moveZ := (← readUint16 payload 4).toInt16
    if !isValidPlayerInput ⟨moveX, moveY, moveZ, false⟩ then
      return (false, input)
    else
      let dashValue ← readUint8 payload 6
      if dashValue > 1 then
        return (false, input)
      else
        return (true, ⟨moveX, moveY, moveZ, dashValue != 0⟩)

/-- The dash byte of an input. -/
def dashByte (dash : Bool) : UInt8 := if dash then 1 else 0

/-- The wire form of an input. -/
def PlayerInputPayload.bytes (input : PlayerInputPayload) : List UInt8 :=
  be16 input.moveX.toUInt16 ++ (be16 input.moveY.toUInt16 ++ (be16 input.moveZ.toUInt16 ++
    [dashByte input.dash]))

@[simp]
theorem PlayerInputPayload.bytes_length (input : PlayerInputPayload) :
    input.bytes.length = playerInputPayloadSize := rfl

theorem encodePlayerInputPayload_valid {input : PlayerInputPayload}
    (h : isValidPlayerInput input = true) :
    encodePlayerInputPayload input = .ok (true, input.bytes) := by
  have hx := writeUint16_extend [] input.moveX.toUInt16 5 (show 0 = _ from rfl)
  have hy := writeUint16_extend (be16 input.moveX.toUInt16) input.moveY.toUInt16 3
    (show 2 = _ from rfl)
  have hz := writeUint16_extend (be16 input.moveX.toUInt16 ++ be16 input.moveY.toUInt16)
    input.moveZ.toUInt16 1 (show 4 = _ from rfl)
  have hdash := writeUint8_extend (be16 input.moveX.toUInt16 ++ be16 input.moveY.toUInt16 ++
    be16 input.moveZ.toUInt16) (dashByte input.dash) 0 (show 6 = _ from rfl)
  rw [List.nil_append, List.nil_append] at hx
  rw [encodePlayerInputPayload, if_neg (by simp [h]), playerInputPayloadSize, hx,
    Checked.ok_bind, hy, Checked.ok_bind, hz, Checked.ok_bind, ← dashByte, hdash]
  simp [PlayerInputPayload.bytes]

/-- The decoder behind its four fields, the dash byte still raw. -/
theorem decodePlayerInputPayload_fields (x y z : Int16) (dash : UInt8)
    (input₀ : PlayerInputPayload) :
    decodePlayerInputPayload
        (be16 x.toUInt16 ++ (be16 y.toUInt16 ++ (be16 z.toUInt16 ++ [dash]))) input₀ =
      .ok (if isValidPlayerInput ⟨x, y, z, false⟩ = true ∧ dash ≤ 1
        then (true, ⟨x, y, z, dash != 0⟩) else (false, input₀)) := by
  have hx := readUint16_append [] (be16 y.toUInt16 ++ (be16 z.toUInt16 ++ [dash])) x.toUInt16
    (show 0 = _ from rfl)
  have hy := readUint16_append (be16 x.toUInt16) (be16 z.toUInt16 ++ [dash]) y.toUInt16
    (show 2 = _ from rfl)
  have hz := readUint16_append (be16 x.toUInt16 ++ be16 y.toUInt16) [dash] z.toUInt16
    (show 4 = _ from rfl)
  have hdash := readUint8_append (be16 x.toUInt16 ++ be16 y.toUInt16 ++ be16 z.toUInt16) [] dash
    (show 6 = _ from rfl)
  rw [List.nil_append] at hx
  simp only [List.append_assoc] at hz hdash
  rw [decodePlayerInputPayload, if_neg (by simp [playerInputPayloadSize]), hx, Checked.ok_bind,
    hy, Checked.ok_bind, hz, Checked.ok_bind]
  simp only [Int16.toInt16_toUInt16, hdash, Checked.ok_bind]
  by_cases hvalid : isValidPlayerInput ⟨x, y, z, false⟩ = true
  · by_cases hone : dash ≤ 1
    · simp [hvalid, hone, UInt8.not_lt.mpr hone]
    · simp [hvalid, hone, UInt8.not_le.mp hone]
  · simp [hvalid]

theorem isValidPlayerInput_dash (x y z : Int16) (dash : Bool) :
    isValidPlayerInput ⟨x, y, z, dash⟩ = isValidPlayerInput ⟨x, y, z, false⟩ := rfl

/-- A dash byte up to one is the byte of the flag it decodes to. -/
theorem dashByte_of_le {dash : UInt8} (h : dash ≤ 1) : dashByte (dash != 0) = dash := by
  have hle : dash.toNat ≤ 1 := UInt8.le_iff_toNat_le.mp h
  rcases Nat.le_one_iff_eq_zero_or_eq_one.mp hle with h0 | h1
  · rw [UInt8.toNat_inj.mp (show dash.toNat = (0 : UInt8).toNat from h0)]
    rfl
  · rw [UInt8.toNat_inj.mp (show dash.toNat = (1 : UInt8).toNat from h1)]
    rfl

theorem decodePlayerInputPayload_bytes {input : PlayerInputPayload}
    (h : isValidPlayerInput input = true) (input₀ : PlayerInputPayload) :
    decodePlayerInputPayload input.bytes input₀ = .ok (true, input) := by
  obtain ⟨x, y, z, dash⟩ := input
  rw [isValidPlayerInput_dash] at h
  rw [PlayerInputPayload.bytes, decodePlayerInputPayload_fields]
  have hdash : dashByte dash ≤ 1 := by cases dash <;> decide
  rw [if_pos ⟨h, hdash⟩]
  cases dash <;> rfl

theorem decodePlayerInputPayload_cases (payload : List UInt8) (input₀ : PlayerInputPayload) :
    decodePlayerInputPayload payload input₀ = .ok (false, input₀) ∨
      ∃ input : PlayerInputPayload, isValidPlayerInput input = true ∧ payload = input.bytes ∧
        decodePlayerInputPayload payload input₀ = .ok (true, input) := by
  by_cases h : payload.length = playerInputPayloadSize
  · have hlen : payload.length = 7 := h
    obtain ⟨x, rest, rfl⟩ := exists_be16 (show 2 ≤ payload.length by omega)
    obtain ⟨y, rest, rfl⟩ := exists_be16 (show 2 ≤ rest.length by simp at hlen; omega)
    obtain ⟨z, rest, rfl⟩ := exists_be16 (show 2 ≤ rest.length by simp at hlen; omega)
    obtain ⟨dash, rest, rfl⟩ := exists_byte (show 1 ≤ rest.length by simp at hlen; omega)
    have hrest : rest = [] := by
      simp at hlen
      exact List.length_eq_zero_iff.mp (by omega)
    subst hrest
    have hfields := decodePlayerInputPayload_fields x.toInt16 y.toInt16 z.toInt16 dash input₀
    simp only [UInt16.toUInt16_toInt16] at hfields
    by_cases hok : isValidPlayerInput ⟨x.toInt16, y.toInt16, z.toInt16, false⟩ = true ∧ dash ≤ 1
    · rw [if_pos hok] at hfields
      refine Or.inr ⟨⟨x.toInt16, y.toInt16, z.toInt16, dash != 0⟩, hok.1, ?_, hfields⟩
      simp [PlayerInputPayload.bytes, dashByte_of_le hok.2]
    · rw [if_neg hok] at hfields
      exact Or.inl hfields
  · exact Or.inl (if_pos h)

theorem decodePlayerInputPayload_inBounds (payload : List UInt8) (input₀ : PlayerInputPayload) :
    (decodePlayerInputPayload payload input₀).InBounds := by
  rcases decodePlayerInputPayload_cases payload input₀ with h | ⟨input, -, -, h⟩
  · exact ⟨_, h⟩
  · exact ⟨_, h⟩

theorem encodePlayerInputPayload_inBounds (input : PlayerInputPayload) :
    (encodePlayerInputPayload input).InBounds := by
  by_cases h : isValidPlayerInput input = true
  · exact ⟨_, encodePlayerInputPayload_valid h⟩
  · refine ⟨_, if_pos ?_⟩
    simpa using h

theorem encodePingPayload_inBounds (ping : PingPayload) : (encodePingPayload ping).InBounds :=
  ⟨_, encodePingPayload_eq ping⟩

end NetworkArena.Shared
