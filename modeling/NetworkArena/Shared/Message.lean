/-
# NetworkArena.Shared.Message -- the reference reader of the message stream

A byte stream is a sequence of messages: a four byte big-endian header with the size of the whole
message and its type, then `size - 4` bytes of payload. `messageFront` says this of the front of a
stream directly on its bytes, without the codec; it is the reference the receive loops of server
and client are compared with. Encoded messages are exactly the frames of this reader.
-/
import NetworkArena.Foundation.Framing
import NetworkArena.Shared.MessageCodec

namespace NetworkArena.Shared

open NetworkArena.Foundation
open NetworkArena.Foundation.BigEndian

/-- A message as the two ends see it. -/
structure Message where
  type : MessageType
  payload : List UInt8
  deriving DecidableEq, Repr

namespace Message

/-- The bytes of the message on the wire. -/
def bytes (message : Message) : List UInt8 := messageBytes message.type message.payload

/-- The header in front of its payload. -/
def header (message : Message) : MessageHeader :=
  ⟨UInt16.ofNat (messageHeaderSize + message.payload.length), message.type⟩

/-- The message is not larger than a message may be. -/
def Fits (message : Message) : Prop := messageHeaderSize + message.payload.length ≤ maxMessageSize

instance (message : Message) : Decidable message.Fits := inferInstanceAs (Decidable (_ ≤ _))

/-- What the encoder returns for a message. -/
theorem encode_get (message : Message)
    (hin : (encodeMessage message.type message.payload).InBounds) :
    (encodeMessage message.type message.payload).get hin =
      if message.Fits then (true, message.bytes) else (false, []) :=
  Checked.get_eq (encodeMessage_eq _ _) hin

@[simp]
theorem bytes_length (message : Message) :
    message.bytes.length = messageHeaderSize + message.payload.length :=
  messageBytes_length _ _

end Message

/-! ## The reader -/

/-- What the front of a byte stream is: the reference parser, one message at a time. -/
def messageFront : List UInt8 → Front Message
  | sizeHigh :: sizeLow :: typeHigh :: typeLow :: rest =>
    let size := (join16 sizeHigh sizeLow).toNat
    if size < 4 ∨ 4096 < size then .malformed
    else if rest.length < size - 4 then .incomplete
    else .frame ⟨⟨join16 typeHigh typeLow⟩, rest.take (size - 4)⟩ size
  | _ => .incomplete

theorem messageFront_short {bytes : List UInt8} (h : bytes.length < messageHeaderSize) :
    messageFront bytes = .incomplete := by
  rcases bytes with _ | ⟨a, _ | ⟨b, _ | ⟨c, _ | ⟨d, rest⟩⟩⟩⟩
  · rfl
  · rfl
  · rfl
  · rfl
  · simp only [List.length_cons, messageHeaderSize] at h
    omega

/-- The front behind a header. -/
theorem messageFront_header (header : MessageHeader) (rest : List UInt8) :
    messageFront (header.bytes ++ rest) =
      if header.size.toNat < 4 ∨ 4096 < header.size.toNat then .malformed
      else if rest.length < header.size.toNat - 4 then .incomplete
      else .frame ⟨header.type, rest.take (header.size.toNat - 4)⟩ header.size.toNat := by
  have hsize := join16_split header.size
  have htype := join16_split header.type.value
  simp only [MessageHeader.bytes, be16, List.cons_append, List.nil_append, messageFront, hsize,
    htype]

/-- The header at the front of a byte stream. -/
def frontHeader : List UInt8 → MessageHeader
  | sizeHigh :: sizeLow :: typeHigh :: typeLow :: _ =>
    ⟨join16 sizeHigh sizeLow, ⟨join16 typeHigh typeLow⟩⟩
  | _ => {}

@[simp]
theorem frontHeader_header (header : MessageHeader) (rest : List UInt8) :
    frontHeader (header.bytes ++ rest) = header := by
  have hsize := join16_split header.size
  have htype := join16_split header.type.value
  simp only [MessageHeader.bytes, be16, List.cons_append, List.nil_append, frontHeader, hsize,
    htype]

/-- A frame at the front, spelled out. -/
theorem messageFront_frame {bytes : List UInt8} {message : Message} {n : ℕ}
    (h : messageFront bytes = .frame message n) :
    n = messageHeaderSize + message.payload.length ∧ message.Fits ∧
      ∃ rest, bytes = message.bytes ++ rest := by
  by_cases hshort : bytes.length < messageHeaderSize
  · rw [messageFront_short hshort] at h
    cases h
  obtain ⟨header, rest, rfl⟩ := exists_header (Nat.not_lt.mp hshort)
  rw [messageFront_header] at h
  split at h
  · cases h
  split at h
  · cases h
  next hsize hrest =>
    obtain ⟨rfl, rfl⟩ := Front.frame.inj h
    have hlen : (rest.take (header.size.toNat - 4)).length = header.size.toNat - 4 := by
      rw [List.length_take]
      omega
    have hword : UInt16.ofNat (messageHeaderSize + (header.size.toNat - 4)) = header.size := by
      rw [show messageHeaderSize + (header.size.toNat - 4) = header.size.toNat by
        simp only [messageHeaderSize]; omega]
      exact UInt16.ofNat_toNat
    refine ⟨?_, ?_, rest.drop (header.size.toNat - 4), ?_⟩
    · simp only [hlen, messageHeaderSize]
      omega
    · simp only [Message.Fits, hlen, messageHeaderSize, maxMessageSize]
      omega
    · simp only [Message.bytes, messageBytes, hlen, hword, List.append_assoc,
        List.take_append_drop]

/-- The bytes of a message that fits are read as this message, whatever follows. -/
theorem messageFront_bytes {message : Message} (h : message.Fits) (more : List UInt8) :
    messageFront (message.bytes ++ more) =
      .frame message (messageHeaderSize + message.payload.length) := by
  have hfits := h
  simp only [Message.Fits, messageHeaderSize, maxMessageSize] at hfits
  obtain ⟨header, hheader⟩ : ∃ header, header =
      MessageHeader.mk (UInt16.ofNat (messageHeaderSize + message.payload.length)) message.type :=
    ⟨_, rfl⟩
  have hsize : header.size.toNat = 4 + message.payload.length := by
    rw [hheader, UInt16.toNat_ofNat', Nat.mod_eq_of_lt] <;> simp only [messageHeaderSize]
    omega
  have htype : header.type = message.type := by rw [hheader]
  rw [Message.bytes, messageBytes, ← hheader, List.append_assoc, messageFront_header,
    if_neg (by omega), if_neg (by rw [List.length_append]; omega), hsize, htype]
  simp [messageHeaderSize]

theorem messageFront_pos {bytes : List UInt8} {message : Message} {n : ℕ}
    (h : messageFront bytes = .frame message n) : 0 < n := by
  obtain ⟨rfl, -, -⟩ := messageFront_frame h
  simp only [messageHeaderSize]
  omega

theorem messageFront_le {bytes : List UInt8} {message : Message} {n : ℕ}
    (h : messageFront bytes = .frame message n) : n ≤ bytes.length := by
  obtain ⟨rfl, -, rest, rfl⟩ := messageFront_frame h
  simp

theorem messageFront_take {bytes : List UInt8} {message : Message} {n : ℕ}
    (h : messageFront bytes = .frame message n) :
    messageFront (bytes.take n) = .frame message n := by
  obtain ⟨rfl, hfits, rest, rfl⟩ := messageFront_frame h
  have hlen : messageHeaderSize + message.payload.length = message.bytes.length := by simp
  have hbytes := messageFront_bytes hfits []
  rw [List.append_nil] at hbytes
  rw [hlen, List.take_left, hbytes, hlen]

theorem messageFront_append {bytes : List UInt8} {message : Message} {n : ℕ} (more : List UInt8)
    (h : messageFront bytes = .frame message n) :
    messageFront (bytes ++ more) = .frame message n := by
  obtain ⟨rfl, hfits, rest, rfl⟩ := messageFront_frame h
  rw [List.append_assoc]
  exact messageFront_bytes hfits _

theorem messageFront_malformed {bytes : List UInt8} (more : List UInt8)
    (h : messageFront bytes = .malformed) : messageFront (bytes ++ more) = .malformed := by
  have hlong : messageHeaderSize ≤ bytes.length := by
    by_contra hshort
    rw [messageFront_short (Nat.not_le.mp hshort)] at h
    cases h
  obtain ⟨header, rest, rfl⟩ := exists_header hlong
  rw [List.append_assoc, messageFront_header]
  rw [messageFront_header] at h
  by_cases hbad : header.size.toNat < 4 ∨ 4096 < header.size.toNat
  · rw [if_pos hbad]
  · rw [if_neg hbad] at h
    split at h <;> cases h

/-- The reader of messages. -/
def messageReader : FrameReader UInt8 Message where
  front := messageFront
  frame_pos := messageFront_pos
  frame_le := messageFront_le
  frame_take := messageFront_take
  frame_append := messageFront_append
  malformed_append := messageFront_malformed

@[simp]
theorem messageReader_front (bytes : List UInt8) : messageReader.front bytes = messageFront bytes :=
  rfl

/-- The frame read off the front is the bytes of the message returned. -/
theorem messageReader_encode {bytes : List UInt8} {message : Message} {n : ℕ}
    (h : messageReader.front bytes = .frame message n) : bytes.take n = message.bytes := by
  obtain ⟨rfl, -, rest, rfl⟩ := messageFront_frame h
  rw [show messageHeaderSize + message.payload.length = message.bytes.length by simp,
    List.take_left]

/-- A message that fits is a frame. -/
theorem messageReader_frames {messages : List Message} (hfits : ∀ m ∈ messages, m.Fits) :
    ∀ m ∈ messages, ∃ n, messageReader.front m.bytes = .frame m n := by
  intro m hm
  have hfront := messageFront_bytes (hfits m hm) []
  rw [List.append_nil] at hfront
  exact ⟨_, hfront⟩

/-- **The message stream is uniquely decodable**: messages whose bytes start the bytes of others
are the first of them. -/
theorem prefix_of_bytes_prefix {sent received : List Message} (hsent : ∀ m ∈ sent, m.Fits)
    (hreceived : ∀ m ∈ received, m.Fits)
    (h : received.flatMap Message.bytes <+: sent.flatMap Message.bytes) : received <+: sent :=
  FrameReader.prefix_of_flatMap_prefix messageReader_encode (messageReader_frames hsent)
    (messageReader_frames hreceived) h

/-- An incomplete front is shorter than the largest message. -/
theorem length_lt_of_incomplete {bytes : List UInt8} (h : messageFront bytes = .incomplete) :
    bytes.length < maxMessageSize := by
  by_cases hshort : bytes.length < messageHeaderSize
  · simp only [messageHeaderSize, maxMessageSize] at hshort ⊢
    omega
  obtain ⟨header, rest, rfl⟩ := exists_header (Nat.not_lt.mp hshort)
  rw [messageFront_header] at h
  split at h
  · cases h
  split at h
  · simp only [List.length_append, MessageHeader.bytes_length, maxMessageSize]
    omega
  · cases h

/-! ## What a receive loop computes at the front

The three cases of the reference reader, in the words of a loop that decodes the header itself,
compares its size with the bounds and with the bytes it has, and cuts the payload out. -/

/-- The size check of the receive loops. -/
def BadSize (header : MessageHeader) : Prop :=
  header.size.toNat < messageHeaderSize ∨ header.size.toNat > maxMessageSize

instance (header : MessageHeader) : Decidable (BadSize header) :=
  inferInstanceAs (Decidable (_ ∨ _))

theorem incomplete_loop {bytes : List UInt8} (h : messageFront bytes = .incomplete)
    (hguard : bytes.length ≥ messageHeaderSize) :
    ∃ header, decodeMessageHeader bytes {} = .ok (true, header) ∧ ¬ BadSize header ∧
      bytes.length < header.size.toNat := by
  obtain ⟨header, rest, rfl⟩ := exists_header hguard
  refine ⟨header, decodeMessageHeader_bytes _ _ _, ?_⟩
  rw [messageFront_header] at h
  split at h
  · cases h
  split at h
  · simp only [BadSize, messageHeaderSize, maxMessageSize, List.length_append,
      MessageHeader.bytes_length]
    omega
  · cases h

theorem malformed_loop {bytes : List UInt8} (h : messageFront bytes = .malformed) :
    bytes.length ≥ messageHeaderSize ∧
      decodeMessageHeader bytes {} = .ok (true, frontHeader bytes) ∧
        BadSize (frontHeader bytes) := by
  have hguard : bytes.length ≥ messageHeaderSize := by
    by_contra hshort
    rw [messageFront_short (Nat.not_le.mp hshort)] at h
    cases h
  obtain ⟨header, rest, rfl⟩ := exists_header hguard
  rw [frontHeader_header]
  refine ⟨hguard, decodeMessageHeader_bytes _ _ _, ?_⟩
  rw [messageFront_header] at h
  split at h
  · simp only [BadSize, messageHeaderSize, maxMessageSize]
    omega
  · split at h <;> cases h

theorem Message.header_size {message : Message} (h : message.Fits) :
    message.header.size.toNat = messageHeaderSize + message.payload.length := by
  simp only [Message.Fits, messageHeaderSize, maxMessageSize] at h
  rw [Message.header, UInt16.toNat_ofNat', Nat.mod_eq_of_lt]
  simp only [messageHeaderSize]
  omega

theorem frame_loop {bytes : List UInt8} {message : Message} {n : ℕ}
    (h : messageFront bytes = .frame message n) :
    bytes.length ≥ messageHeaderSize ∧
      decodeMessageHeader bytes {} = .ok (true, message.header) ∧ ¬ BadSize message.header ∧
      ¬ bytes.length < message.header.size.toNat ∧
      Span.subspan bytes messageHeaderSize (message.header.size.toNat - messageHeaderSize) =
        .ok message.payload ∧
      Span.eraseFront bytes message.header.size.toNat = .ok (bytes.drop n) := by
  obtain ⟨rfl, hfits, rest, rfl⟩ := messageFront_frame h
  have hsize := Message.header_size hfits
  have hlen : (message.bytes ++ rest).length =
      messageHeaderSize + message.payload.length + rest.length := by simp
  have hsplit : message.bytes ++ rest = message.header.bytes ++ (message.payload ++ rest) := by
    rw [← List.append_assoc]
    rfl
  refine ⟨by omega, ?_, ?_, by omega, ?_, ?_⟩
  · rw [hsplit]
    exact decodeMessageHeader_bytes _ _ _
  · simp only [Message.Fits] at hfits
    simp only [BadSize]
    omega
  · rw [hsplit]
    exact Span.subspan_append _ _ _ rfl (by omega)
  · rw [hsize]
    exact Span.eraseFront_of_le (by omega)

end NetworkArena.Shared
