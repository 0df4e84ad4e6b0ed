/-
# NetworkArena.Shared.MessageCodec -- the byte helpers and the message envelope

`message_codec.h`. Offsets are explicit and every access is checked, so an access outside the span
is visible as an `error`. The layout of a word is `BigEndian.be16`, `be32`, `be64`; the lemmas here
say that the source's nested helpers read and write exactly that layout.
-/
import NetworkArena.Foundation.Span
import NetworkArena.Foundation.BigEndian
import NetworkArena.Shared.NetworkTypes

namespace NetworkArena.Shared

open NetworkArena.Foundation
open NetworkArena.Foundation.BigEndian

/-! ## Reading -/

def readUint8 (data : List UInt8) (offset : ℕ) : Checked UInt8 := Span.readAt data offset

def readUint16 (data : List UInt8) (offset : ℕ) : Checked UInt16 := do
  let high ← Span.readAt data offset
  let low ← Span.readAt data (offset + 1)
  return (high.toUInt16 <<< 8) ||| low.toUInt16

def readUint32 (data : List UInt8) (offset : ℕ) : Checked UInt32 := do
  let high ← readUint16 data offset
  let low ← readUint16 data (offset + 2)
  return (high.toUInt32 <<< 16) ||| low.toUInt32

def readUint64 (data : List UInt8) (offset : ℕ) : Checked UInt64 := do
  let high ← readUint32 data offset
  let low ← readUint32 data (offset + 4)
  return (high.toUInt64 <<< 32) ||| low.toUInt64

/-- `std::bit_cast<float>` of the word. -/
def readFloat32 (data : List UInt8) (offset : ℕ) : Checked FloatBits := do
  return ⟨← readUint32 data offset⟩

/-! ## Writing -/

def writeUint8 (data : List UInt8) (offset : ℕ) (value : UInt8) : Checked (List UInt8) :=
  Span.writeAt data offset value

def writeUint16 (data : List UInt8) (offset : ℕ) (value : UInt16) : Checked (List UInt8) := do
  let data ← Span.writeAt data offset ((value >>> 8) &&& 0xFF).toUInt8
  Span.writeAt data (offset + 1) (value &&& 0xFF).toUInt8

def writeUint32 (data : List UInt8) (offset : ℕ) (value : UInt32) : Checked (List UInt8) := do
  let data ← writeUint16 data offset (value >>> 16).toUInt16
  writeUint16 data (offset + 2) (value &&& 0xFFFF).toUInt16

def writeUint64 (data : List UInt8) (offset : ℕ) (value : UInt64) : Checked (List UInt8) := do
  let data ← writeUint32 data offset (value >>> 32).toUInt32
  writeUint32 data (offset + 4) (value &&& 0xFFFFFFFF).toUInt32

def writeFloat32 (data : List UInt8) (offset : ℕ) (value : FloatBits) : Checked (List UInt8) :=
  writeUint32 data offset value.pattern

/-! ## The envelope -/

/-- Fills `header` from the first four bytes; `false` when there are fewer. -/
def decodeMessageHeader (data : List UInt8) (header : MessageHeader) :
    Checked (Bool × MessageHeader) :=
  if data.length < messageHeaderSize then
    return (false, header)
  else do
    let size ← readUint16 data 0
    let type ← readUint16 data 2
    return (true, ⟨size, ⟨type⟩⟩)

def encodeMessageHeader (header : MessageHeader) : Checked (List UInt8) := do
  let encodedHeader ← writeUint16 (List.replicate messageHeaderSize 0) 0 header.size
  writeUint16 encodedHeader 2 header.type.value

/-- The flag the source returns, and `encodedMessage`, which it clears before anything else. -/
def encodeMessage (type : MessageType) (payload : List UInt8) : Checked (Bool × List UInt8) :=
  let totalSize := messageHeaderSize + payload.length
  if totalSize > maxMessageSize then
    return (false, [])
  else do
    let encodedHeader ← encodeMessageHeader ⟨UInt16.ofNat totalSize, type⟩
    return (true, encodedHeader ++ payload)

/-! ## Reads behind a known prefix -/

section Reads

variable (pre post : List UInt8) {offset : ℕ}

theorem readUint8_append (v : UInt8) (h : offset = pre.length) :
    readUint8 (pre ++ v :: post) offset = .ok v :=
  Span.readAt_append pre post v h

theorem readUint16_append (v : UInt16) (h : offset = pre.length) :
    readUint16 (pre ++ (be16 v ++ post)) offset = .ok v := by
  have hhigh := Span.readAt_append pre ((v &&& 0xFF).toUInt8 :: post)
    ((v >>> 8) &&& 0xFF).toUInt8 h
  have hlow := Span.readAt_append (pre ++ [((v >>> 8) &&& 0xFF).toUInt8]) post
    (v &&& 0xFF).toUInt8 (show offset + 1 = _ by simp [h])
  simp only [List.append_assoc, List.cons_append, List.nil_append] at hlow
  simp only [readUint16, be16, List.cons_append, List.nil_append, hhigh, hlow,
    Checked.ok_bind, Checked.pure_eq, Except.ok.injEq]
  exact join16_split v

theorem readUint32_append (v : UInt32) (h : offset = pre.length) :
    readUint32 (pre ++ (be32 v ++ post)) offset = .ok v := by
  have hhigh := readUint16_append pre (be16 (v &&& 0xFFFF).toUInt16 ++ post)
    (v >>> 16).toUInt16 h
  have hlow := readUint16_append (pre ++ be16 (v >>> 16).toUInt16) post
    (v &&& 0xFFFF).toUInt16 (show offset + 2 = _ by simp [h])
  simp only [List.append_assoc] at hlow
  simp only [readUint32, be32, List.append_assoc, hhigh, hlow,
    Checked.ok_bind, Checked.pure_eq, Except.ok.injEq]
  exact join32_split v

theorem readUint64_append (v : UInt64) (h : offset = pre.length) :
    readUint64 (pre ++ (be64 v ++ post)) offset = .ok v := by
  have hhigh := readUint32_append pre (be32 (v &&& 0xFFFFFFFF).toUInt32 ++ post)
    (v >>> 32).toUInt32 h
  have hlow := readUint32_append (pre ++ be32 (v >>> 32).toUInt32) post
    (v &&& 0xFFFFFFFF).toUInt32 (show offset + 4 = _ by simp [h])
  simp only [List.append_assoc] at hlow
  simp only [readUint64, be64, List.append_assoc, hhigh, hlow,
    Checked.ok_bind, Checked.pure_eq, Except.ok.injEq]
  exact join64_split v

theorem readFloat32_append (v : FloatBits) (h : offset = pre.length) :
    readFloat32 (pre ++ (be32 v.pattern ++ post)) offset = .ok v := by
  simp only [readFloat32, readUint32_append pre post v.pattern h, Checked.ok_bind,
    Checked.pure_eq]

end Reads

/-! ## Writes behind a known prefix

What stood there does not matter, only how much of it. -/

section Writes

variable (pre post : List UInt8) {offset : ℕ}

theorem writeUint8_over (v old : UInt8) (h : offset = pre.length) :
    writeUint8 (pre ++ old :: post) offset v = .ok ((pre ++ [v]) ++ post) := by
  rw [writeUint8, Span.writeAt_append pre post old v h]
  simp

theorem writeUint16_over (v : UInt16) {old : List UInt8} (hold : old.length = 2)
    (h : offset = pre.length) :
    writeUint16 (pre ++ (old ++ post)) offset v = .ok ((pre ++ be16 v) ++ post) := by
  obtain ⟨first, second, rfl⟩ := List.length_eq_two.mp hold
  have hhigh := writeUint8_over pre (second :: post) ((v >>> 8) &&& 0xFF).toUInt8 first h
  have hlow := writeUint8_over (pre ++ [((v >>> 8) &&& 0xFF).toUInt8]) post (v &&& 0xFF).toUInt8
    second (show offset + 1 = _ by simp [h])
  simp only [writeUint8] at hhigh hlow
  rw [writeUint16, List.cons_append, List.cons_append, List.nil_append, hhigh, Checked.ok_bind,
    hlow]
  simp [be16]

theorem writeUint32_over (v : UInt32) {old : List UInt8} (hold : old.length = 4)
    (h : offset = pre.length) :
    writeUint32 (pre ++ (old ++ post)) offset v = .ok ((pre ++ be32 v) ++ post) := by
  have htake : (old.take 2).length = 2 := by simp [hold]
  have hdrop : (old.drop 2).length = 2 := by simp [hold]
  have hhigh := writeUint16_over pre (old.drop 2 ++ post) (v >>> 16).toUInt16 htake h
  have hlow := writeUint16_over (pre ++ be16 (v >>> 16).toUInt16) post (v &&& 0xFFFF).toUInt16
    hdrop (show offset + 2 = _ by simp [h])
  rw [← List.append_assoc (old.take 2), List.take_append_drop] at hhigh
  rw [writeUint32, hhigh, Checked.ok_bind, hlow]
  simp [be32]

theorem writeUint64_over (v : UInt64) {old : List UInt8} (hold : old.length = 8)
    (h : offset = pre.length) :
    writeUint64 (pre ++ (old ++ post)) offset v = .ok ((pre ++ be64 v) ++ post) := by
  have htake : (old.take 4).length = 4 := by simp [hold]
  have hdrop : (old.drop 4).length = 4 := by simp [hold]
  have hhigh := writeUint32_over pre (old.drop 4 ++ post) (v >>> 32).toUInt32 htake h
  have hlow := writeUint32_over (pre ++ be32 (v >>> 32).toUInt32) post
    (v &&& 0xFFFFFFFF).toUInt32 hdrop (show offset + 4 = _ by simp [h])
  rw [← List.append_assoc (old.take 4), List.take_append_drop] at hhigh
  rw [writeUint64, hhigh, Checked.ok_bind, hlow]
  simp [be64]

end Writes

/-! ## Writes that extend a known prefix

The rest of the buffer is not written yet, and has its zeros of the start. -/

section Extensions

variable (pre : List UInt8) {offset : ℕ}

theorem writeUint8_extend (v : UInt8) (k : ℕ) (h : offset = pre.length) :
    writeUint8 (pre ++ List.replicate (1 + k) 0) offset v =
      .ok ((pre ++ [v]) ++ List.replicate k 0) := by
  rw [Nat.add_comm, List.replicate_succ]
  exact writeUint8_over pre _ v 0 h

theorem writeUint16_extend (v : UInt16) (k : ℕ) (h : offset = pre.length) :
    writeUint16 (pre ++ List.replicate (2 + k) 0) offset v =
      .ok ((pre ++ be16 v) ++ List.replicate k 0) := by
  rw [List.replicate_add]
  exact writeUint16_over pre _ v List.length_replicate h

theorem writeUint32_extend (v : UInt32) (k : ℕ) (h : offset = pre.length) :
    writeUint32 (pre ++ List.replicate (4 + k) 0) offset v =
      .ok ((pre ++ be32 v) ++ List.replicate k 0) := by
  rw [List.replicate_add]
  exact writeUint32_over pre _ v List.length_replicate h

theorem writeUint64_extend (v : UInt64) (k : ℕ) (h : offset = pre.length) :
    writeUint64 (pre ++ List.replicate (8 + k) 0) offset v =
      .ok ((pre ++ be64 v) ++ List.replicate k 0) := by
  rw [List.replicate_add]
  exact writeUint64_over pre _ v List.length_replicate h

theorem writeFloat32_extend (v : FloatBits) (k : ℕ) (h : offset = pre.length) :
    writeFloat32 (pre ++ List.replicate (4 + k) 0) offset v =
      .ok ((pre ++ be32 v.pattern) ++ List.replicate k 0) :=
  writeUint32_extend pre v.pattern k h

end Extensions

/-! ## The envelope's layout -/

/-- The four header bytes of a message. -/
def MessageHeader.bytes (header : MessageHeader) : List UInt8 :=
  be16 header.size ++ be16 header.type.value

@[simp]
theorem MessageHeader.bytes_length (header : MessageHeader) : header.bytes.length = 4 := rfl

theorem encodeMessageHeader_eq (header : MessageHeader) :
    encodeMessageHeader header = .ok header.bytes := by
  have hsize := writeUint16_extend [] header.size 2 (show 0 = _ from rfl)
  have htype := writeUint16_extend (be16 header.size) header.type.value 0 (show 2 = _ from rfl)
  simp only [List.nil_append] at hsize
  rw [encodeMessageHeader, messageHeaderSize, hsize, Checked.ok_bind, htype]
  simp [MessageHeader.bytes]

/-- A header in front of any bytes is read back. -/
theorem decodeMessageHeader_bytes (header header₀ : MessageHeader) (rest : List UInt8) :
    decodeMessageHeader (header.bytes ++ rest) header₀ = .ok (true, header) := by
  have hsize := readUint16_append [] (be16 header.type.value ++ rest) header.size
    (show 0 = _ from rfl)
  have htype := readUint16_append (be16 header.size) rest header.type.value (show 2 = _ from rfl)
  simp only [List.nil_append] at hsize
  have hlen : ¬ (header.bytes ++ rest).length < messageHeaderSize := by
    simp [messageHeaderSize]
  rw [decodeMessageHeader, if_neg hlen]
  simp only [MessageHeader.bytes, List.append_assoc, hsize, htype, Checked.ok_bind,
    Checked.pure_eq]

theorem decodeMessageHeader_short {data : List UInt8} (header : MessageHeader)
    (h : data.length < messageHeaderSize) : decodeMessageHeader data header = .ok (false, header) :=
  if_pos h

/-- Four bytes or more always start with a header. -/
theorem exists_header {data : List UInt8} (h : messageHeaderSize ≤ data.length) :
    ∃ header : MessageHeader, ∃ rest, data = header.bytes ++ rest := by
  simp only [messageHeaderSize] at h
  obtain ⟨size, rest, rfl⟩ := exists_be16 (show 2 ≤ data.length by omega)
  obtain ⟨type, rest, rfl⟩ := exists_be16 (show 2 ≤ rest.length by simp at h; omega)
  exact ⟨⟨size, ⟨type⟩⟩, rest, by simp [MessageHeader.bytes]⟩

/-- The bytes of a message that fits. -/
def messageBytes (type : MessageType) (payload : List UInt8) : List UInt8 :=
  (MessageHeader.mk (UInt16.ofNat (messageHeaderSize + payload.length)) type).bytes ++ payload

@[simp]
theorem messageBytes_length (type : MessageType) (payload : List UInt8) :
    (messageBytes type payload).length = messageHeaderSize + payload.length := by
  simp [messageBytes, messageHeaderSize]

/-- **`EncodeMessage` in one line**: it refuses exactly the messages that do not fit. -/
theorem encodeMessage_eq (type : MessageType) (payload : List UInt8) :
    encodeMessage type payload =
      .ok (if messageHeaderSize + payload.length ≤ maxMessageSize
        then (true, messageBytes type payload) else (false, [])) := by
  by_cases h : messageHeaderSize + payload.length > maxMessageSize
  · simp [encodeMessage, h, Nat.not_le.mpr h]
  · simp only [encodeMessage, h, if_false, Nat.not_lt.mp h, if_true, encodeMessageHeader_eq,
      Checked.ok_bind, Checked.pure_eq, messageBytes]

theorem encodeMessage_inBounds (type : MessageType) (payload : List UInt8) :
    (encodeMessage type payload).InBounds := ⟨_, encodeMessage_eq type payload⟩

end NetworkArena.Shared
