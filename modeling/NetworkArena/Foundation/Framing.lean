/-
# NetworkArena.Foundation.Framing -- cutting a byte stream into frames

A receiver accumulates bytes and repeatedly takes a frame off the front. What stands at the front
is a function of the bytes alone (`FrameReader.front`), and it never changes when more bytes
arrive, once it is decided. From these two facts everything about receiving in pieces follows:
draining the bytes as they arrive ends where draining all of them at once ends (`drain_append`,
`feed_eq_drain`).

`parse` reads the frames without a handler; `drain_eq_deliver` says that draining hands exactly
these frames to the handler, up to the first one it rejects.
-/
import Mathlib.Data.List.Basic
import Mathlib.Data.Nat.Init
import Mathlib.Tactic.Common

namespace NetworkArena.Foundation

universe u v w

/-- What stands at the front of a byte stream. -/
inductive Front (φ : Type v) where
  /-- Not enough bytes to tell. -/
  | incomplete
  /-- No continuation of these bytes starts with a frame. -/
  | malformed
  /-- A frame that takes up the first `size` bytes. -/
  | frame (f : φ) (size : ℕ)

/-- A reader of frames: a decision about the front that more bytes never revoke. -/
structure FrameReader (α : Type u) (φ : Type v) where
  front : List α → Front φ
  frame_pos : ∀ {bytes f n}, front bytes = .frame f n → 0 < n
  frame_le : ∀ {bytes f n}, front bytes = .frame f n → n ≤ bytes.length
  frame_take : ∀ {bytes f n}, front bytes = .frame f n → front (bytes.take n) = .frame f n
  frame_append : ∀ {bytes f n} more, front bytes = .frame f n → front (bytes ++ more) = .frame f n
  malformed_append : ∀ {bytes} more, front bytes = .malformed → front (bytes ++ more) = .malformed

/-- Why a receiver stopped. -/
inductive Verdict where
  /-- It waits for more bytes. -/
  | waiting
  /-- The bytes at the front are no frame. -/
  | malformed
  /-- The handler rejected a frame. -/
  | rejected
  deriving DecidableEq, Repr

/-- Where a receiver stopped: the bytes it has not taken off and the state of its handler. -/
structure Outcome (α : Type u) (τ : Type w) where
  verdict : Verdict
  rest : List α
  state : τ

namespace FrameReader

variable {α : Type u} {φ : Type v} {τ : Type w} (R : FrameReader α φ)
  (handle : φ → τ → Bool × τ)

/-! ## Draining -/

/-- Take frames off the front and hand them to `handle`, until the bytes or the handler stop. -/
def drain (bytes : List α) (t : τ) : Outcome α τ :=
  match _h : R.front bytes with
  | .incomplete => ⟨.waiting, bytes, t⟩
  | .malformed => ⟨.malformed, bytes, t⟩
  | .frame f n =>
    if (handle f t).1 then drain (bytes.drop n) (handle f t).2
    else ⟨.rejected, bytes, (handle f t).2⟩
termination_by bytes.length
decreasing_by
  have hpos := R.frame_pos _h
  have hle := R.frame_le _h
  rw [List.length_drop]
  omega

variable {R}

theorem drain_incomplete {bytes : List α} (h : R.front bytes = .incomplete) (t : τ) :
    R.drain handle bytes t = ⟨.waiting, bytes, t⟩ := by
  rw [drain]
  split <;> simp_all

theorem drain_malformed {bytes : List α} (h : R.front bytes = .malformed) (t : τ) :
    R.drain handle bytes t = ⟨.malformed, bytes, t⟩ := by
  rw [drain]
  split <;> simp_all

theorem drain_frame {bytes : List α} {f : φ} {n : ℕ} (h : R.front bytes = .frame f n) (t : τ) :
    R.drain handle bytes t =
      if (handle f t).1 then R.drain handle (bytes.drop n) (handle f t).2
      else ⟨.rejected, bytes, (handle f t).2⟩ := by
  rw [drain]
  split <;> simp_all

/-- A frame at the front is the same frame with more bytes behind it. -/
theorem drop_append {bytes : List α} {f : φ} {n : ℕ} (h : R.front bytes = .frame f n)
    (more : List α) : (bytes ++ more).drop n = bytes.drop n ++ more :=
  List.drop_append_of_le_length (R.frame_le h)

/-- Induction along the frames of a byte string. -/
theorem front_induction (R : FrameReader α φ) {P : List α → Prop}
    (incomplete : ∀ bytes, R.front bytes = .incomplete → P bytes)
    (malformed : ∀ bytes, R.front bytes = .malformed → P bytes)
    (frame : ∀ bytes f n, R.front bytes = .frame f n → P (bytes.drop n) → P bytes)
    (bytes : List α) : P bytes := by
  induction hlen : bytes.length using Nat.strongRecOn generalizing bytes with
  | _ k ih =>
      cases hfront : R.front bytes with
      | incomplete => exact incomplete bytes hfront
      | malformed => exact malformed bytes hfront
      | frame f n =>
          refine frame bytes f n hfront (ih (bytes.drop n).length ?_ _ rfl)
          have hpos := R.frame_pos hfront
          have hle := R.frame_le hfront
          rw [List.length_drop]
          omega

/-- **Draining can be interrupted.** Draining more bytes at once is draining the first ones, and
then, if the receiver still waits, what is left of them together with the others. -/
theorem drain_append (bytes more : List α) (t : τ) :
    R.drain handle (bytes ++ more) t =
      match (R.drain handle bytes t).verdict with
      | .waiting => R.drain handle ((R.drain handle bytes t).rest ++ more)
          (R.drain handle bytes t).state
      | stopped => ⟨stopped, (R.drain handle bytes t).rest ++ more,
          (R.drain handle bytes t).state⟩ := by
  induction bytes using R.front_induction generalizing t with
  | incomplete bytes h => rw [drain_incomplete handle h]
  | malformed bytes h =>
      rw [drain_malformed handle h, drain_malformed handle (R.malformed_append more h)]
  | frame bytes f n h ih =>
      rw [drain_frame handle (R.frame_append more h), drop_append h, drain_frame handle h]
      by_cases hok : (handle f t).1 = true
      · simp only [hok, if_true]
        exact ih (handle f t).2
      · simp [hok]

/-- A receiver that waits has an incomplete front. -/
theorem drain_waiting {bytes : List α} {t : τ} (h : (R.drain handle bytes t).verdict = .waiting) :
    R.front (R.drain handle bytes t).rest = .incomplete := by
  induction bytes using R.front_induction generalizing t with
  | incomplete bytes hfront =>
      rw [drain_incomplete handle hfront]
      exact hfront
  | malformed bytes hfront =>
      rw [drain_malformed handle hfront] at h
      cases h
  | frame bytes f n hfront ih =>
      rw [drain_frame handle hfront] at h ⊢
      by_cases hok : (handle f t).1 = true
      · simp only [hok, if_true] at h ⊢
        exact ih h
      · simp [hok] at h

/-! ## Receiving in pieces -/

variable (R)

/-- Receive chunks one after the other: each is appended to the bytes kept so far, and the
receiver is asked for no further chunk once it has stopped. -/
def feed : List (List α) → List α → τ → Outcome α τ
  | [], kept, t => ⟨.waiting, kept, t⟩
  | chunk :: chunks, kept, t =>
    match (R.drain handle (kept ++ chunk) t).verdict with
    | .waiting => feed chunks (R.drain handle (kept ++ chunk) t).rest
        (R.drain handle (kept ++ chunk) t).state
    | _ => R.drain handle (kept ++ chunk) t

variable {R}

/-- **Receiving in pieces is receiving at once**, up to the bytes behind the point where the
receiver stopped, which it was never given. -/
theorem feed_eq_drain (chunks : List (List α)) (kept : List α) (t : τ)
    (hkept : R.front kept = .incomplete) :
    (R.feed handle chunks kept t).verdict = (R.drain handle (kept ++ chunks.flatten) t).verdict ∧
      (R.feed handle chunks kept t).state = (R.drain handle (kept ++ chunks.flatten) t).state ∧
      ((R.feed handle chunks kept t).verdict = .waiting →
        (R.feed handle chunks kept t).rest = (R.drain handle (kept ++ chunks.flatten) t).rest) := by
  induction chunks generalizing kept t with
  | nil =>
      rw [List.flatten_nil, List.append_nil, drain_incomplete handle hkept]
      exact ⟨rfl, rfl, fun _ => rfl⟩
  | cons chunk chunks ih =>
      rw [List.flatten_cons, ← List.append_assoc, drain_append handle (kept ++ chunk), feed]
      cases hverdict : (R.drain handle (kept ++ chunk) t).verdict with
      | waiting => exact ih _ _ (drain_waiting handle hverdict)
      | malformed => exact ⟨hverdict, rfl, fun h => by rw [hverdict] at h; cases h⟩
      | rejected => exact ⟨hverdict, rfl, fun h => by rw [hverdict] at h; cases h⟩

/-! ## The frames, without a handler -/

/-- The frames of a byte string, whether it then goes on with bytes that are no frame, and what
is left. -/
structure Parse (α : Type u) (φ : Type v) where
  frames : List φ
  malformed : Bool
  rest : List α

variable (R)

/-- Read all frames. -/
def parse (bytes : List α) : Parse α φ :=
  match _h : R.front bytes with
  | .incomplete => ⟨[], false, bytes⟩
  | .malformed => ⟨[], true, bytes⟩
  | .frame f n =>
    let later := parse (bytes.drop n)
    ⟨f :: later.frames, later.malformed, later.rest⟩
termination_by bytes.length
decreasing_by
  have hpos := R.frame_pos _h
  have hle := R.frame_le _h
  rw [List.length_drop]
  omega

variable {R}

theorem parse_incomplete {bytes : List α} (h : R.front bytes = .incomplete) :
    R.parse bytes = ⟨[], false, bytes⟩ := by
  rw [parse]
  split <;> simp_all

theorem parse_malformed {bytes : List α} (h : R.front bytes = .malformed) :
    R.parse bytes = ⟨[], true, bytes⟩ := by
  rw [parse]
  split <;> simp_all

theorem parse_frame {bytes : List α} {f : φ} {n : ℕ} (h : R.front bytes = .frame f n) :
    R.parse bytes =
      ⟨f :: (R.parse (bytes.drop n)).frames, (R.parse (bytes.drop n)).malformed,
        (R.parse (bytes.drop n)).rest⟩ := by
  rw [parse]
  split <;> simp_all

/-- Hand frames to a handler until it rejects one. The flag says that all were accepted. -/
def deliver : List φ → τ → Bool × τ
  | [], t => (true, t)
  | f :: frames, t =>
    if (handle f t).1 then deliver frames (handle f t).2 else (false, (handle f t).2)

/-- **Draining delivers the frames of the byte string**, and stops for the reason the frames and
the handler give. -/
theorem drain_eq_deliver (bytes : List α) (t : τ) :
    (R.drain handle bytes t).state = (deliver handle (R.parse bytes).frames t).2 ∧
      (R.drain handle bytes t).verdict =
        (if (deliver handle (R.parse bytes).frames t).1 then
          (if (R.parse bytes).malformed then .malformed else .waiting) else .rejected) ∧
      ((deliver handle (R.parse bytes).frames t).1 = true →
        (R.drain handle bytes t).rest = (R.parse bytes).rest) := by
  induction bytes using R.front_induction generalizing t with
  | incomplete bytes h =>
      rw [drain_incomplete handle h, parse_incomplete h]
      exact ⟨rfl, rfl, fun _ => rfl⟩
  | malformed bytes h =>
      rw [drain_malformed handle h, parse_malformed h]
      exact ⟨rfl, rfl, fun _ => rfl⟩
  | frame bytes f n h ih =>
      rw [drain_frame handle h, parse_frame h]
      simp only [deliver]
      by_cases hok : (handle f t).1 = true
      · simp only [hok, if_true]
        exact ih (handle f t).2
      · simp only [hok]
        exact ⟨rfl, rfl, fun hfalse => by cases hfalse⟩

/-! ## What draining preserves -/

/-- The invariant rule: what every call of the handler preserves, draining preserves. -/
theorem drain_preserves {P : τ → Prop} (hP : ∀ f t, P t → P (handle f t).2) (bytes : List α)
    {t : τ} (ht : P t) : P (R.drain handle bytes t).state := by
  induction bytes using R.front_induction generalizing t with
  | incomplete bytes h =>
      rw [drain_incomplete handle h]
      exact ht
  | malformed bytes h =>
      rw [drain_malformed handle h]
      exact ht
  | frame bytes f n h ih =>
      rw [drain_frame handle h]
      by_cases hok : (handle f t).1 = true
      · rw [if_pos hok]
        exact ih (hP f t ht)
      · rw [if_neg hok]
        exact hP f t ht

/-- What accepted frames keep holds until a frame is rejected. -/
theorem drain_until {P Q : τ → Prop}
    (hP : ∀ f t, P t → (handle f t).1 = true → P (handle f t).2)
    (hQ : ∀ f t, P t → (handle f t).1 = false → Q (handle f t).2) (bytes : List α) {t : τ}
    (ht : P t) :
    if (R.drain handle bytes t).verdict = .rejected then Q (R.drain handle bytes t).state
    else P (R.drain handle bytes t).state := by
  induction bytes using R.front_induction generalizing t with
  | incomplete bytes h =>
      rw [drain_incomplete handle h, if_neg nofun]
      exact ht
  | malformed bytes h =>
      rw [drain_malformed handle h, if_neg nofun]
      exact ht
  | frame bytes f n h ih =>
      rw [drain_frame handle h]
      by_cases hok : (handle f t).1 = true
      · rw [if_pos hok]
        exact ih (hP f t ht hok)
      · rw [if_neg hok, if_pos rfl]
        exact hQ f t ht (by simpa using hok)

/-! ## Frames and their bytes -/

section Encoding

variable {encode : φ → List α}
  (hencode : ∀ {bytes f n}, R.front bytes = .frame f n → bytes.take n = encode f)

include hencode

/-- The bytes of a frame in front of any others are read as this frame. -/
theorem front_encode {bytes : List α} {f : φ} {n : ℕ} (h : R.front bytes = .frame f n)
    (more : List α) : R.front (encode f ++ more) = .frame f n := by
  rw [← hencode h]
  exact R.frame_append more (R.frame_take h)

/-- **No byte is lost or read twice.** If the handler logs every frame it is given, then the bytes
are the bytes of the frames logged followed by what is left; the frame that was rejected, if there
is one, is still in front of what is left. -/
theorem drain_log (log : τ → List φ) (hlog : ∀ f t, log (handle f t).2 = log t ++ [f])
    (bytes : List α) (t : τ) :
    ∃ frames, log (R.drain handle bytes t).state = log t ++ frames ∧
      (∀ f ∈ frames, ∃ front n, R.front front = .frame f n) ∧
      frames.flatMap encode <+: bytes ∧
      ((R.drain handle bytes t).verdict ≠ .rejected →
        bytes = frames.flatMap encode ++ (R.drain handle bytes t).rest) := by
  induction bytes using R.front_induction generalizing t with
  | incomplete bytes h =>
      rw [drain_incomplete handle h]
      exact ⟨[], by simp, by simp, by simp, fun _ => by simp⟩
  | malformed bytes h =>
      rw [drain_malformed handle h]
      exact ⟨[], by simp, by simp, by simp, fun _ => by simp⟩
  | frame bytes f n h ih =>
      have hsplit : bytes = encode f ++ bytes.drop n := by
        rw [← hencode h, List.take_append_drop]
      rw [drain_frame handle h]
      by_cases hok : (handle f t).1 = true
      · rw [if_pos hok]
        obtain ⟨frames, hframes, hread, hstarts, hrest⟩ := ih (handle f t).2
        refine ⟨f :: frames, ?_, ?_, ?_, ?_⟩
        · rw [hframes, hlog, List.append_assoc]
          rfl
        · exact List.forall_mem_cons.mpr ⟨⟨bytes, n, h⟩, hread⟩
        · rw [List.flatMap_cons]
          conv => rhs; rw [hsplit]
          exact List.prefix_append_right_inj _ |>.mpr hstarts
        · intro hverdict
          rw [List.flatMap_cons, List.append_assoc, ← hrest hverdict]
          exact hsplit
      · rw [if_neg hok]
        refine ⟨[f], hlog f t, List.forall_mem_singleton.mpr ⟨bytes, n, h⟩, ?_,
          fun hverdict => absurd rfl hverdict⟩
        rw [List.flatMap_cons, List.flatMap_nil, List.append_nil]
        exact ⟨bytes.drop n, hsplit.symm⟩

/-- The front of bytes that start the bytes of some frames is the first of these frames, as soon as
there are enough bytes. -/
theorem front_of_prefix (hempty : R.front [] = .incomplete) {todo : List φ}
    (htodo : ∀ f ∈ todo, ∃ n, R.front (encode f) = .frame f n) {bytes : List α}
    (hbytes : bytes <+: todo.flatMap encode) :
    R.front bytes = .incomplete ∨ ∃ f rest n, todo = f :: rest ∧ R.front bytes = .frame f n ∧
      bytes.drop n <+: rest.flatMap encode := by
  cases todo with
  | nil =>
      rw [List.flatMap_nil, List.prefix_nil] at hbytes
      rw [hbytes]
      exact Or.inl hempty
  | cons f rest =>
      obtain ⟨n, hf⟩ := htodo f (List.mem_cons_self ..)
      have hwhole := front_encode hencode hf (rest.flatMap encode)
      obtain ⟨more, hmore⟩ := hbytes
      rw [List.flatMap_cons] at hmore
      cases hread : R.front bytes with
      | incomplete => exact Or.inl rfl
      | malformed =>
          have hlater := R.malformed_append more hread
          rw [hmore, hwhole] at hlater
          cases hlater
      | frame g m =>
          have hlater := R.frame_append more hread
          rw [hmore, hwhole] at hlater
          obtain ⟨rfl, rfl⟩ := Front.frame.inj hlater
          refine Or.inr ⟨f, rest, n, rfl, rfl, more, ?_⟩
          have hlength : (encode f).length = n := by
            rw [← hencode hread, List.length_take]
            exact Nat.min_eq_left (R.frame_le hread)
          rw [← drop_append hread, hmore, ← hlength, List.drop_left]

/-- **Draining along a script.** The bytes start the bytes of the frames of a script that are still
to come. Then none of them is malformed, and what the handler preserves from one frame of the
script to the next holds after draining, of the frames given to it by then. If the handler takes
every frame, the receiver waits. -/
theorem drain_along (hempty : R.front [] = .incomplete) {P : List φ → τ → Prop} {script : List φ}
    (hframes : ∀ f ∈ script, ∃ n, R.front (encode f) = .frame f n)
    (hstep : ∀ done f rest t, script = done ++ f :: rest → P done t →
      P (done ++ [f]) (handle f t).2)
    (bytes : List α) {done todo : List φ} (t : τ) (hscript : script = done ++ todo)
    (hbytes : bytes <+: todo.flatMap encode) (ht : P done t) :
    (R.drain handle bytes t).verdict ≠ .malformed ∧
      (∃ done', done' <+: script ∧ P done' (R.drain handle bytes t).state) ∧
      ((∀ done f rest t, script = done ++ f :: rest → P done t → (handle f t).1 = true) →
        (R.drain handle bytes t).verdict = .waiting) := by
  induction bytes using R.front_induction generalizing t done todo with
  | incomplete bytes h =>
      rw [drain_incomplete handle h]
      exact ⟨nofun, ⟨done, ⟨todo, hscript.symm⟩, ht⟩, fun _ => rfl⟩
  | malformed bytes h =>
      have htodo : ∀ f ∈ todo, ∃ n, R.front (encode f) = .frame f n :=
        fun f hf => hframes f (hscript ▸ List.mem_append_right _ hf)
      rcases front_of_prefix hencode hempty htodo hbytes with hshort | ⟨f, rest, n, -, hframe, -⟩
      · rw [h] at hshort
        cases hshort
      · rw [h] at hframe
        cases hframe
  | frame bytes f n h ih =>
      have htodo : ∀ f ∈ todo, ∃ n, R.front (encode f) = .frame f n :=
        fun f hf => hframes f (hscript ▸ List.mem_append_right _ hf)
      rcases front_of_prefix hencode hempty htodo hbytes with
        hshort | ⟨g, rest, m, rfl, hframe, hrest⟩
      · rw [h] at hshort
        cases hshort
      rw [h] at hframe
      obtain ⟨rfl, rfl⟩ := Front.frame.inj hframe
      have hnext := hstep done f rest t hscript ht
      have hsplit : script = (done ++ [f]) ++ rest := by rw [hscript, List.append_assoc]; rfl
      rw [drain_frame handle h]
      by_cases hok : (handle f t).1 = true
      · rw [if_pos hok]
        exact ih (handle f t).2 hsplit hrest hnext
      · rw [if_neg hok]
        exact ⟨nofun, ⟨done ++ [f], ⟨rest, hsplit.symm⟩, hnext⟩,
          fun hall => absurd (hall done f rest t hscript ht) hok⟩

/-- **Frames can be told apart.** If the bytes of some frames start the bytes of others, then the
frames start the others. -/
theorem prefix_of_flatMap_prefix {sent received : List φ}
    (hsent : ∀ f ∈ sent, ∃ n, R.front (encode f) = .frame f n)
    (hreceived : ∀ f ∈ received, ∃ n, R.front (encode f) = .frame f n)
    (h : received.flatMap encode <+: sent.flatMap encode) : received <+: sent := by
  induction received generalizing sent with
  | nil => exact List.nil_prefix
  | cons f received ih =>
      obtain ⟨n, hf⟩ := hreceived f (List.mem_cons_self ..)
      have hfront := front_encode hencode hf
      obtain ⟨more, hmore⟩ := h
      rw [List.flatMap_cons, List.append_assoc] at hmore
      cases sent with
      | nil =>
          have hempty : encode f = [] := (List.append_eq_nil_iff.mp hmore).1
          have hpos := R.frame_pos hf
          have hle := R.frame_le hf
          rw [hempty, List.length_nil] at hle
          omega
      | cons g sent =>
          obtain ⟨m, hg⟩ := hsent g (List.mem_cons_self ..)
          have hsame : Front.frame f n = .frame g m := by
            rw [← hfront (received.flatMap encode ++ more), hmore, List.flatMap_cons]
            exact front_encode hencode hg _
          obtain ⟨rfl, -⟩ := Front.frame.inj hsame
          rw [List.flatMap_cons] at hmore
          have htail := ih (fun f hf => hsent f (List.mem_cons_of_mem _ hf))
            (fun f hf => hreceived f (List.mem_cons_of_mem _ hf))
            ⟨more, List.append_cancel_left hmore⟩
          exact List.cons_prefix_cons.mpr ⟨rfl, htail⟩

end Encoding

end FrameReader

end NetworkArena.Foundation
