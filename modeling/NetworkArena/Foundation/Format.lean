/-
# NetworkArena.Foundation.Format -- formats that are bijections

A format has an encoder, which may refuse a value, and a decoder, which fills a value in place and
may refuse the data. `FixedFormat` says all that a sender and a receiver can ask of the two: the
encoder takes the valid values, the decoder undoes it, the decoder takes nothing but encodings, it
reads nothing outside the data, and it leaves the value alone when it refuses. `HeadFormat` is the
same for a decoder that looks at the front of its data only.

Both follow from a layout: a function that says which bytes a value has, a decoder that finds the
value behind its bytes, and the fact that whatever is accepted is a layout (`of_layout`).
-/
import NetworkArena.Foundation.Span

namespace NetworkArena.Foundation

variable {α β : Type}

/-- What an encoder returns that has a flag and fills a buffer in place. -/
def accepted (result : Checked (Bool × List β)) : Checked (Option (List β)) :=
  result.map fun filled => if filled.1 then some filled.2 else none

@[simp] theorem accepted_true (bytes : List β) :
    accepted (.ok (true, bytes)) = .ok (some bytes) := rfl

@[simp] theorem accepted_false (bytes : List β) : accepted (.ok (false, bytes)) = .ok none := rfl

/-! ## Formats -/

/-- A format whose data has a fixed size. -/
structure FixedFormat (size : ℕ) (Valid : α → Prop) (encode : α → Checked (Option (List β)))
    (decode : List β → α → Checked (Bool × α)) : Prop where
  /-- Encoding succeeds exactly on the valid values. -/
  encodes : ∀ a, (∃ bytes, encode a = .ok (some bytes)) ↔ Valid a
  /-- Decoding an encoding returns the value, whatever it overwrites. -/
  decodes : ∀ a bytes, encode a = .ok (some bytes) → ∀ a₀, decode bytes a₀ = .ok (true, a)
  /-- What is accepted has the size of the format and is an encoding of what is returned. -/
  canonical : ∀ bytes a₀ a, decode bytes a₀ = .ok (true, a) →
    bytes.length = size ∧ encode a = .ok (some bytes)
  /-- A valid value has one form. -/
  oneForm : ∀ a, Valid a → ∃! bytes, ∃ a₀, decode bytes a₀ = .ok (true, a)
  inBounds : ∀ bytes a₀, (decode bytes a₀).InBounds
  unchanged : ∀ bytes a₀ a, decode bytes a₀ = .ok (false, a) → a = a₀

/-- A format at the front of data of any size. -/
structure HeadFormat (size : ℕ) (Valid : α → Prop) (encode : α → Checked (Option (List β)))
    (decode : List β → α → Checked (Bool × α)) : Prop where
  encodes : ∀ a, (∃ bytes, encode a = .ok (some bytes)) ↔ Valid a
  decodes : ∀ a bytes, encode a = .ok (some bytes) →
    ∀ rest a₀, decode (bytes ++ rest) a₀ = .ok (true, a)
  /-- What is accepted has at least the size of the format and starts with an encoding. -/
  canonical : ∀ data a₀ a, decode data a₀ = .ok (true, a) →
    size ≤ data.length ∧ encode a = .ok (some (data.take size))
  inBounds : ∀ data a₀, (decode data a₀).InBounds
  unchanged : ∀ data a₀ a, decode data a₀ = .ok (false, a) → a = a₀

/-! ## Formats with a layout -/

section Layout

variable {size : ℕ} {Valid : α → Prop} {encode : α → Checked (Option (List β))}
  {decode : List β → α → Checked (Bool × α)} {layout : α → List β}

/-- An encoder that returns the layout of the valid values. -/
theorem encodes_layout_iff (hvalid : ∀ a, Valid a → encode a = .ok (some (layout a)))
    (hinvalid : ∀ a, ¬ Valid a → encode a = .ok none) (a : α) (bytes : List β) :
    encode a = .ok (some bytes) ↔ Valid a ∧ bytes = layout a := by
  by_cases h : Valid a
  · rw [hvalid a h]
    constructor
    · intro heq
      cases heq
      exact ⟨h, rfl⟩
    · rintro ⟨-, rfl⟩
      rfl
  · rw [hinvalid a h]
    constructor
    · intro heq
      cases heq
    · intro h'
      exact absurd h'.1 h

/-- A decoder that refuses and leaves the value alone, or finds what is laid out. -/
def Finds (Valid : α → Prop) (decode : List β → α → Checked (Bool × α))
    (Reads : List β → α → Prop) :
    Prop :=
  ∀ bytes a₀, decode bytes a₀ = .ok (false, a₀) ∨
    ∃ a, Valid a ∧ Reads bytes a ∧ decode bytes a₀ = .ok (true, a)

theorem Finds.inBounds {Reads : List β → α → Prop} (h : Finds Valid decode Reads) (bytes : List β)
    (a₀ : α) : (decode bytes a₀).InBounds := by
  rcases h bytes a₀ with hrefused | ⟨a, -, -, hfound⟩
  · exact ⟨_, hrefused⟩
  · exact ⟨_, hfound⟩

theorem Finds.unchanged {Reads : List β → α → Prop} (h : Finds Valid decode Reads) (bytes : List β)
    (a₀ a : α) (hrefused : decode bytes a₀ = .ok (false, a)) : a = a₀ := by
  rcases h bytes a₀ with hsame | ⟨a', -, -, hfound⟩
  · cases hsame.symm.trans hrefused
    rfl
  · cases hfound.symm.trans hrefused

theorem Finds.reads {Reads : List β → α → Prop} (h : Finds Valid decode Reads) {bytes : List β}
    {a₀ a : α} (hfound : decode bytes a₀ = .ok (true, a)) : Valid a ∧ Reads bytes a := by
  rcases h bytes a₀ with hsame | ⟨a', hvalid, hreads, hfound'⟩
  · cases hsame.symm.trans hfound
  · cases hfound'.symm.trans hfound
    exact ⟨hvalid, hreads⟩

/-- **A layout of one size makes a format.** -/
theorem FixedFormat.of_layout (hsize : ∀ a, (layout a).length = size)
    (hvalid : ∀ a, Valid a → encode a = .ok (some (layout a)))
    (hinvalid : ∀ a, ¬ Valid a → encode a = .ok none)
    (hdecode : ∀ a, Valid a → ∀ a₀, decode (layout a) a₀ = .ok (true, a))
    (hfinds : Finds Valid decode fun bytes a => bytes = layout a) :
    FixedFormat size Valid encode decode where
  encodes a := by
    simp only [encodes_layout_iff hvalid hinvalid, exists_and_left, exists_eq, and_true]
  decodes a bytes hencode a₀ := by
    obtain ⟨h, rfl⟩ := (encodes_layout_iff hvalid hinvalid a bytes).mp hencode
    exact hdecode a h a₀
  canonical bytes a₀ a hfound := by
    obtain ⟨h, rfl⟩ := hfinds.reads hfound
    exact ⟨hsize a, hvalid a h⟩
  oneForm a h := by
    refine ⟨layout a, ⟨a, hdecode a h a⟩, ?_⟩
    rintro bytes ⟨a₀, hfound⟩
    exact (hfinds.reads hfound).2
  inBounds := hfinds.inBounds
  unchanged := hfinds.unchanged

theorem HeadFormat.of_layout (hsize : ∀ a, (layout a).length = size)
    (hvalid : ∀ a, Valid a → encode a = .ok (some (layout a)))
    (hinvalid : ∀ a, ¬ Valid a → encode a = .ok none)
    (hdecode : ∀ a, Valid a → ∀ rest a₀, decode (layout a ++ rest) a₀ = .ok (true, a))
    (hfinds : Finds Valid decode fun data a => ∃ rest, data = layout a ++ rest) :
    HeadFormat size Valid encode decode where
  encodes a := by
    simp only [encodes_layout_iff hvalid hinvalid, exists_and_left, exists_eq, and_true]
  decodes a bytes hencode rest a₀ := by
    obtain ⟨h, rfl⟩ := (encodes_layout_iff hvalid hinvalid a bytes).mp hencode
    exact hdecode a h rest a₀
  canonical data a₀ a hfound := by
    obtain ⟨h, rest, rfl⟩ := hfinds.reads hfound
    rw [List.take_left' (hsize a), List.length_append, hsize a]
    exact ⟨Nat.le_add_right size rest.length, hvalid a h⟩
  inBounds := hfinds.inBounds
  unchanged := hfinds.unchanged

end Layout

end NetworkArena.Foundation
