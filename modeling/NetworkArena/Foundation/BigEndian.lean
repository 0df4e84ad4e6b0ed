/-
# NetworkArena.Foundation.BigEndian -- big-endian words as byte lists

The byte lists that a 16, 32 or 64 bit word has on the wire, the words read back from them, and
the two directions of the correspondence: reading the bytes of a word returns the word, and every
list of the right length is the bytes of exactly one word. Wider words are two narrower halves, as
in a codec that nests its helpers.
-/
import Mathlib.Data.Nat.Bitwise
import Mathlib.Tactic.NormNum

namespace NetworkArena.Foundation.BigEndian

/-! ## The words -/

/-- The two bytes of a 16 bit word, the high one first. -/
def be16 (v : UInt16) : List UInt8 := [((v >>> 8) &&& 0xFF).toUInt8, (v &&& 0xFF).toUInt8]

/-- The four bytes of a 32 bit word: its two halves. -/
def be32 (v : UInt32) : List UInt8 :=
  be16 (v >>> 16).toUInt16 ++ be16 (v &&& 0xFFFF).toUInt16

/-- The eight bytes of a 64 bit word: its two halves. -/
def be64 (v : UInt64) : List UInt8 :=
  be32 (v >>> 32).toUInt32 ++ be32 (v &&& 0xFFFFFFFF).toUInt32

/-- The 16 bit word of two bytes. -/
def join16 (high low : UInt8) : UInt16 := (high.toUInt16 <<< 8) ||| low.toUInt16

/-- The 32 bit word of two halves. -/
def join32 (high low : UInt16) : UInt32 := (high.toUInt32 <<< 16) ||| low.toUInt32

/-- The 64 bit word of two halves. -/
def join64 (high low : UInt32) : UInt64 := (high.toUInt64 <<< 32) ||| low.toUInt64

@[simp] theorem be16_length (v : UInt16) : (be16 v).length = 2 := rfl
@[simp] theorem be32_length (v : UInt32) : (be32 v).length = 4 := rfl
@[simp] theorem be64_length (v : UInt64) : (be64 v).length = 8 := rfl

/-! ## Splitting and joining -/

/-- The arithmetic behind every `join`: a shifted high part and a low part below it do not
overlap, so `|||` adds them. -/
theorem shiftLeft_or (h l k : ℕ) (hl : l < 2 ^ k) : h <<< k ||| l = h * 2 ^ k + l := by
  rw [← Nat.shiftLeft_add_eq_or_of_lt hl, Nat.shiftLeft_eq]

theorem join16_toNat (h l : UInt8) : (join16 h l).toNat = h.toNat * 256 + l.toNat := by
  have hh := h.toNat_lt
  have hl := l.toNat_lt
  have hsmall : h.toNat <<< 8 % 2 ^ 16 = h.toNat <<< 8 :=
    Nat.mod_eq_of_lt (by rw [Nat.shiftLeft_eq]; omega)
  simp only [join16, UInt16.toNat_or, UInt16.toNat_shiftLeft, UInt8.toNat_toUInt16]
  rw [show (8 : UInt16).toNat % 16 = 8 from rfl, hsmall, shiftLeft_or _ _ _ hl]
  norm_num

theorem join32_toNat (h l : UInt16) : (join32 h l).toNat = h.toNat * 65536 + l.toNat := by
  have hh := h.toNat_lt
  have hl := l.toNat_lt
  have hsmall : h.toNat <<< 16 % 2 ^ 32 = h.toNat <<< 16 :=
    Nat.mod_eq_of_lt (by rw [Nat.shiftLeft_eq]; omega)
  simp only [join32, UInt32.toNat_or, UInt32.toNat_shiftLeft, UInt16.toNat_toUInt32]
  rw [show (16 : UInt32).toNat % 32 = 16 from rfl, hsmall, shiftLeft_or _ _ _ hl]
  norm_num

theorem join64_toNat (h l : UInt32) : (join64 h l).toNat = h.toNat * 4294967296 + l.toNat := by
  have hh := h.toNat_lt
  have hl := l.toNat_lt
  have hsmall : h.toNat <<< 32 % 2 ^ 64 = h.toNat <<< 32 :=
    Nat.mod_eq_of_lt (by rw [Nat.shiftLeft_eq]; omega)
  simp only [join64, UInt64.toNat_or, UInt64.toNat_shiftLeft, UInt32.toNat_toUInt64]
  rw [show (32 : UInt64).toNat % 64 = 32 from rfl, hsmall, shiftLeft_or _ _ _ hl]
  norm_num

theorem high16_toNat (v : UInt16) : ((v >>> 8) &&& 0xFF).toUInt8.toNat = v.toNat / 256 := by
  have hv := v.toNat_lt
  simp only [UInt16.toNat_toUInt8, UInt16.toNat_and, UInt16.toNat_shiftRight]
  rw [show (8 : UInt16).toNat % 16 = 8 from rfl, show (0xFF : UInt16).toNat = 2 ^ 8 - 1 from rfl,
    Nat.and_two_pow_sub_one_eq_mod, Nat.shiftRight_eq_div_pow]
  omega

theorem low16_toNat (v : UInt16) : (v &&& 0xFF).toUInt8.toNat = v.toNat % 256 := by
  simp only [UInt16.toNat_toUInt8, UInt16.toNat_and]
  rw [show (0xFF : UInt16).toNat = 2 ^ 8 - 1 from rfl, Nat.and_two_pow_sub_one_eq_mod]
  omega

theorem high32_toNat (v : UInt32) : (v >>> 16).toUInt16.toNat = v.toNat / 65536 := by
  have hv := v.toNat_lt
  simp only [UInt32.toNat_toUInt16, UInt32.toNat_shiftRight]
  rw [show (16 : UInt32).toNat % 32 = 16 from rfl, Nat.shiftRight_eq_div_pow]
  omega

theorem low32_toNat (v : UInt32) : (v &&& 0xFFFF).toUInt16.toNat = v.toNat % 65536 := by
  simp only [UInt32.toNat_toUInt16, UInt32.toNat_and]
  rw [show (0xFFFF : UInt32).toNat = 2 ^ 16 - 1 from rfl, Nat.and_two_pow_sub_one_eq_mod]
  omega

theorem high64_toNat (v : UInt64) : (v >>> 32).toUInt32.toNat = v.toNat / 4294967296 := by
  have hv := v.toNat_lt
  simp only [UInt64.toNat_toUInt32, UInt64.toNat_shiftRight]
  rw [show (32 : UInt64).toNat % 64 = 32 from rfl, Nat.shiftRight_eq_div_pow]
  omega

theorem low64_toNat (v : UInt64) : (v &&& 0xFFFFFFFF).toUInt32.toNat = v.toNat % 4294967296 := by
  simp only [UInt64.toNat_toUInt32, UInt64.toNat_and]
  rw [show (0xFFFFFFFF : UInt64).toNat = 2 ^ 32 - 1 from rfl, Nat.and_two_pow_sub_one_eq_mod]
  omega

theorem join16_split (v : UInt16) :
    join16 ((v >>> 8) &&& 0xFF).toUInt8 (v &&& 0xFF).toUInt8 = v := by
  apply UInt16.toNat_inj.mp
  rw [join16_toNat, high16_toNat, low16_toNat]
  omega

theorem join32_split (v : UInt32) : join32 (v >>> 16).toUInt16 (v &&& 0xFFFF).toUInt16 = v := by
  apply UInt32.toNat_inj.mp
  rw [join32_toNat, high32_toNat, low32_toNat]
  omega

theorem join64_split (v : UInt64) :
    join64 (v >>> 32).toUInt32 (v &&& 0xFFFFFFFF).toUInt32 = v := by
  apply UInt64.toNat_inj.mp
  rw [join64_toNat, high64_toNat, low64_toNat]
  omega

theorem be16_join16 (h l : UInt8) : be16 (join16 h l) = [h, l] := by
  have hl := l.toNat_lt
  have e1 : ((join16 h l >>> 8) &&& 0xFF).toUInt8 = h := by
    apply UInt8.toNat_inj.mp
    rw [high16_toNat, join16_toNat]
    omega
  have e2 : (join16 h l &&& 0xFF).toUInt8 = l := by
    apply UInt8.toNat_inj.mp
    rw [low16_toNat, join16_toNat]
    omega
  rw [be16, e1, e2]

theorem be32_join32 (h l : UInt16) : be32 (join32 h l) = be16 h ++ be16 l := by
  have hl := l.toNat_lt
  have e1 : (join32 h l >>> 16).toUInt16 = h := by
    apply UInt16.toNat_inj.mp
    rw [high32_toNat, join32_toNat]
    omega
  have e2 : (join32 h l &&& 0xFFFF).toUInt16 = l := by
    apply UInt16.toNat_inj.mp
    rw [low32_toNat, join32_toNat]
    omega
  rw [be32, e1, e2]

theorem be64_join64 (h l : UInt32) : be64 (join64 h l) = be32 h ++ be32 l := by
  have hl := l.toNat_lt
  have e1 : (join64 h l >>> 32).toUInt32 = h := by
    apply UInt32.toNat_inj.mp
    rw [high64_toNat, join64_toNat]
    omega
  have e2 : (join64 h l &&& 0xFFFFFFFF).toUInt32 = l := by
    apply UInt32.toNat_inj.mp
    rw [low64_toNat, join64_toNat]
    omega
  rw [be64, e1, e2]

/-! ## Every long enough list starts with a word -/

theorem exists_byte {bytes : List UInt8} (h : 1 ≤ bytes.length) :
    ∃ v rest, bytes = v :: rest := by
  cases bytes with
  | nil => simp at h
  | cons v rest => exact ⟨v, rest, rfl⟩

theorem exists_be16 {bytes : List UInt8} (h : 2 ≤ bytes.length) :
    ∃ v rest, bytes = be16 v ++ rest := by
  obtain ⟨high, rest, rfl⟩ := exists_byte (Nat.le_of_succ_le h)
  obtain ⟨low, rest, rfl⟩ := exists_byte (show 1 ≤ rest.length by simpa using h)
  exact ⟨join16 high low, rest, by rw [be16_join16]; rfl⟩

theorem exists_be32 {bytes : List UInt8} (h : 4 ≤ bytes.length) :
    ∃ v rest, bytes = be32 v ++ rest := by
  obtain ⟨high, rest, rfl⟩ := exists_be16 (show 2 ≤ bytes.length by omega)
  obtain ⟨low, rest, rfl⟩ := exists_be16 (show 2 ≤ rest.length by simp at h; omega)
  exact ⟨join32 high low, rest, by rw [be32_join32, List.append_assoc]⟩

theorem exists_be64 {bytes : List UInt8} (h : 8 ≤ bytes.length) :
    ∃ v rest, bytes = be64 v ++ rest := by
  obtain ⟨high, rest, rfl⟩ := exists_be32 (show 4 ≤ bytes.length by omega)
  obtain ⟨low, rest, rfl⟩ := exists_be32 (show 4 ≤ rest.length by simp at h; omega)
  exact ⟨join64 high low, rest, by rw [be64_join64, List.append_assoc]⟩

end NetworkArena.Foundation.BigEndian
