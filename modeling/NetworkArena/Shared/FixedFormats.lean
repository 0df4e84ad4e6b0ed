/-
# NetworkArena.Shared.FixedFormats -- the fixed-size formats are bijections

The three fixed-size payloads and the message header, each as a format of `Foundation.Format`: what
is valid is encoded, what is encoded is decoded, and what is accepted is an encoding. Layouts and
the equations of encoders and decoders are those of `Payloads` and `MessageCodec`.
-/
import NetworkArena.Foundation.Format
import NetworkArena.Shared.Payloads

namespace NetworkArena.Shared

open NetworkArena.Foundation
open NetworkArena.Foundation.BigEndian

/-! ## What is valid -/

/-- The axes of an input are within a thousand. -/
def PlayerInputPayload.InRange (input : PlayerInputPayload) : Prop :=
  ∀ axis ∈ [input.moveX, input.moveY, input.moveZ], -1000 ≤ axis.toInt ∧ axis.toInt ≤ 1000

theorem isValidPlayerInputAxisRawValue_iff (value : Int16) :
    isValidPlayerInputAxisRawValue value = true ↔ -1000 ≤ value.toInt ∧ value.toInt ≤ 1000 := by
  unfold isValidPlayerInputAxisRawValue
  rw [Bool.and_eq_true, decide_eq_true_eq, decide_eq_true_eq, ge_iff_le, Int16.le_iff_toInt_le,
    Int16.le_iff_toInt_le]
  rfl

theorem isValidPlayerInput_iff (input : PlayerInputPayload) :
    isValidPlayerInput input = true ↔ input.InRange := by
  simp only [isValidPlayerInput, Bool.and_eq_true, isValidPlayerInputAxisRawValue_iff,
    PlayerInputPayload.InRange, List.forall_mem_cons, List.not_mem_nil, false_implies,
    implies_true, and_true, and_assoc]

/-! ## The formats -/

/-- **Pings**, all of them. -/
theorem pingPayload_format :
    FixedFormat pingPayloadSize (fun _ => True) (fun ping => (encodePingPayload ping).map some)
      decodePingPayload := by
  apply FixedFormat.of_layout PingPayload.bytes_length
  · intro ping _
    rw [encodePingPayload_eq]
    rfl
  · intro _ h
    exact absurd trivial h
  · intro ping _
    exact decodePingPayload_bytes ping
  · intro bytes ping₀
    exact (decodePingPayload_cases bytes ping₀).imp_right
      fun ⟨ping, hbytes, hfound⟩ => ⟨ping, trivial, hbytes, hfound⟩

/-- **Identities** with real ids, written over any array. -/
theorem playerIdentityPayload_format {payload : List UInt8}
    (hsize : payload.length = playerIdentityPayloadSize) :
    FixedFormat playerIdentityPayloadSize PlayerIdentityPayload.Valid
      (fun identity => accepted (encodePlayerIdentityPayload identity payload))
      decodePlayerIdentityPayload := by
  apply FixedFormat.of_layout PlayerIdentityPayload.bytes_length
  · intro identity h
    rw [encodePlayerIdentityPayload_over h hsize, accepted_true]
  · intro identity h
    rw [encodePlayerIdentityPayload_invalid h, accepted_false]
  · intro identity h
    exact decodePlayerIdentityPayload_bytes h
  · exact decodePlayerIdentityPayload_cases

theorem encodePlayerInputPayload_invalid {input : PlayerInputPayload} (h : ¬ input.InRange) :
    encodePlayerInputPayload input = .ok (false, List.replicate playerInputPayloadSize 0) := by
  apply if_pos
  rw [← isValidPlayerInput_iff] at h
  simpa using h

/-- **Inputs** with their axes in range. -/
theorem playerInputPayload_format :
    FixedFormat playerInputPayloadSize PlayerInputPayload.InRange
      (fun input => accepted (encodePlayerInputPayload input)) decodePlayerInputPayload := by
  apply FixedFormat.of_layout PlayerInputPayload.bytes_length
  · intro input h
    rw [encodePlayerInputPayload_valid ((isValidPlayerInput_iff input).mpr h), accepted_true]
  · intro input h
    rw [encodePlayerInputPayload_invalid h, accepted_false]
  · intro input h
    exact decodePlayerInputPayload_bytes ((isValidPlayerInput_iff input).mpr h)
  · intro bytes input₀
    exact (decodePlayerInputPayload_cases bytes input₀).imp_right
      fun ⟨input, h, hbytes, hfound⟩ =>
        ⟨input, (isValidPlayerInput_iff input).mp h, hbytes, hfound⟩

/-- **Headers**, all of them, at the front of a message. -/
theorem messageHeader_format :
    HeadFormat messageHeaderSize (fun _ => True)
      (fun header => (encodeMessageHeader header).map some) decodeMessageHeader := by
  apply HeadFormat.of_layout MessageHeader.bytes_length
  · intro header _
    rw [encodeMessageHeader_eq]
    rfl
  · intro _ h
    exact absurd trivial h
  · intro header _ rest header₀
    exact decodeMessageHeader_bytes header header₀ rest
  · intro data header₀
    by_cases hshort : data.length < messageHeaderSize
    · exact Or.inl (decodeMessageHeader_short header₀ hshort)
    · obtain ⟨header, rest, rfl⟩ := exists_header (not_lt.mp hshort)
      exact Or.inr ⟨header, trivial, ⟨rest, rfl⟩, decodeMessageHeader_bytes header header₀ rest⟩

/-- A dash byte that is no flag is refused. -/
theorem decodePlayerInputPayload_dash {payload : List UInt8}
    (hdash : ∃ dash, payload[6]? = some dash ∧ 1 < dash) (input₀ : PlayerInputPayload) :
    decodePlayerInputPayload payload input₀ = .ok (false, input₀) := by
  apply (decodePlayerInputPayload_cases payload input₀).resolve_right
  rintro ⟨input, -, rfl, -⟩
  obtain ⟨dash, hbyte, hlarge⟩ := hdash
  have hflag : input.bytes[6]? = some (dashByte input.dash) := rfl
  rw [hflag] at hbyte
  obtain rfl := Option.some.inj hbyte
  have hsmall : dashByte input.dash ≤ 1 := by
    cases input.dash <;> decide
  exact absurd hlarge (UInt8.not_lt.mpr hsmall)

/-- **The fixed-size formats are bijections** between their valid values and the bytes their
decoders accept. -/
theorem fixed_formats_bijective :
    FixedFormat 7 PlayerInputPayload.InRange
      (fun input => accepted (encodePlayerInputPayload input))
      decodePlayerInputPayload ∧
    (∀ payload : Vector UInt8 8,
      FixedFormat 8 (fun identity => identity.roomId ≠ 0 ∧ identity.playerId ≠ 0)
        (fun identity => accepted (encodePlayerIdentityPayload identity payload.toList))
        decodePlayerIdentityPayload) ∧
    FixedFormat 8 (fun _ => True) (fun ping => (encodePingPayload ping).map some)
      decodePingPayload ∧
    HeadFormat 4 (fun _ => True) (fun header => (encodeMessageHeader header).map some)
      decodeMessageHeader ∧
    ∀ (payload : List UInt8) (input₀ : PlayerInputPayload),
      (∃ dash, payload[6]? = some dash ∧ 1 < dash) →
        decodePlayerInputPayload payload input₀ = .ok (false, input₀) :=
  ⟨playerInputPayload_format, fun payload => playerIdentityPayload_format payload.length_toList,
    pingPayload_format, messageHeader_format,
    fun _ input₀ hdash => decodePlayerInputPayload_dash hdash input₀⟩

end NetworkArena.Shared
