/-
# NetworkArena.Shared.NetworkTypes -- the vocabulary of server and client

`NetworkTypes.h`, `message_type.h` and `message_header.h`. The source's enumerations have a fixed
underlying type, and the decoders `static_cast` raw wire values into them before any check: a
variable of type `PlayerSide` can hold every byte. Each enumeration is therefore its underlying
integer, with the enumerators as constants.
-/
import Mathlib.Data.List.Basic

namespace NetworkArena.Shared

/-! ## Identifiers -/

abbrev PlayerId := UInt32
abbrev RoomId := UInt32
abbrev ServerTick := UInt64

/-! ## Sides and phases -/

/-- `enum class PlayerSide : std::uint8_t`. -/
structure PlayerSide where
  value : UInt8
  deriving DecidableEq, Repr

namespace PlayerSide

protected def none : PlayerSide := ⟨0⟩
def flame : PlayerSide := ⟨1⟩
def frost : PlayerSide := ⟨2⟩

end PlayerSide

/-- `enum class GamePlayState : std::uint8_t`. -/
structure GamePlayState where
  value : UInt8
  deriving DecidableEq, Repr

namespace GamePlayState

def waiting : GamePlayState := ⟨0⟩
def playing : GamePlayState := ⟨1⟩
def finished : GamePlayState := ⟨2⟩

end GamePlayState

/-! ## Message types and headers -/

/-- `enum class MessageType : std::uint16_t`. -/
structure MessageType where
  value : UInt16
  deriving DecidableEq, Repr

namespace MessageType

def unknown : MessageType := ⟨0⟩
def ping : MessageType := ⟨1⟩
def pong : MessageType := ⟨2⟩
def playerInput : MessageType := ⟨3⟩
def worldStateSnapshot : MessageType := ⟨4⟩
def playerIdentity : MessageType := ⟨5⟩

end MessageType

/-- The header in front of every message of the TCP stream. -/
structure MessageHeader where
  /-- Size of the whole message, header included. -/
  size : UInt16 := 0
  type : MessageType := .unknown
  deriving DecidableEq, Repr

def messageHeaderSize : ℕ := 2 * 2

def maxMessageSize : ℕ := 4096

/-! ## Error codes -/

/-- The `boost::system::error_code` values the source names, and all others. -/
inductive ErrorCode where
  | eof
  | connectionReset
  | operationAborted
  | messageSize
  | protocolError
  | other (value : ℕ)
  deriving DecidableEq, Repr

/-! ## Floats on the wire -/

/-- A `float` as its 32 bit pattern, which is all the wire format reads or writes of it. -/
structure FloatBits where
  pattern : UInt32
  deriving DecidableEq, Repr

namespace FloatBits

/-- `+0.0f`. -/
def zero : FloatBits := ⟨0⟩

/-- `std::isfinite`: the exponent is not all ones. -/
def isFinite (x : FloatBits) : Bool := ((x.pattern >>> 23) &&& 0xFF) != 0xFF

/-- Not a number: the exponent is all ones and the fraction is not zero. -/
def isNaN (x : FloatBits) : Bool := decide (0x7F800000 < (x.pattern &&& 0x7FFFFFFF))

/-- `x < 0.0f`: the sign bit is set and the value is neither `-0.0f` nor not a number. -/
def belowZero (x : FloatBits) : Bool :=
  !x.isNaN && (x.pattern &&& 0x80000000) != 0 && (x.pattern &&& 0x7FFFFFFF) != 0

end FloatBits

end NetworkArena.Shared
