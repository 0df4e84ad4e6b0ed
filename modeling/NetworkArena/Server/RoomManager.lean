/-
# NetworkArena.Server.RoomManager -- rooms and their ids

`room_manager.cpp`. The manager numbers the rooms with a counter of 32 bits that it never looks back
at: after `2 ^ 32` rooms it starts again at 0, which is the id of no room, and then gives out ids
that rooms may still have. Which calls of `CreateRoom` return a usable room is therefore a matter of
how many there were before and which rooms have been removed (`created_rooms_fresh_iff`). The first
`2 ^ 32 - 1` all do.

A `shared_ptr<Room>` is the number of the object it points to, in the order in which they were made,
with the id the room was constructed with. What the manager prints is left out.
-/
import NetworkArena.Server.Server

namespace NetworkArena.Server

open NetworkArena.Shared

/-! ## The manager -/

structure RoomPointer where
  object : ℕ
  roomId : RoomId
  deriving DecidableEq, Repr

structure RoomManager where
  nextRoomId : RoomId := 1
  rooms : List (RoomId × RoomPointer) := []
  /-- How many rooms have been made. -/
  made : ℕ := 0
  deriving DecidableEq, Repr

inductive RoomManagerCall where
  | createRoom
  | removeRoom (roomId : RoomId)
  deriving DecidableEq, Repr

namespace RoomManager

def generateRoomId (m : RoomManager) : RoomId × RoomManager :=
  (m.nextRoomId, { m with nextRoomId := m.nextRoomId + 1 })

def createRoom (m : RoomManager) : RoomPointer × RoomManager :=
  let (roomId, m) := m.generateRoomId
  let room : RoomPointer := ⟨m.made, roomId⟩
  let m := { m with made := m.made + 1 }
  -- `emplace` leaves an entry with this key alone
  if m.rooms.any fun entry => entry.1 = roomId then (room, m)
  else (room, { m with rooms := m.rooms ++ [(roomId, room)] })

def findRoom (m : RoomManager) (roomId : RoomId) : Option RoomPointer :=
  (m.rooms.find? fun entry => entry.1 = roomId).map (·.2)

def removeRoom (m : RoomManager) (roomId : RoomId) : RoomManager :=
  { m with rooms := m.rooms.filter fun entry => entry.1 ≠ roomId }

def step (m : RoomManager) : RoomManagerCall → RoomManager
  | .createRoom => m.createRoom.2
  | .removeRoom roomId => m.removeRoom roomId

def run (m : RoomManager) (calls : List RoomManagerCall) : RoomManager := calls.foldl step m

/-- The default room of the server is the first one. -/
example : ({} : RoomManager).createRoom.1.roomId = Server.defaultRoomId := rfl

theorem run_concat (m : RoomManager) (calls : List RoomManagerCall) (call : RoomManagerCall) :
    m.run (calls ++ [call]) = (m.run calls).step call :=
  List.foldl_concat ..

/-! ## One call -/

/-- A room is registered under an id. -/
def Registered (m : RoomManager) (roomId : RoomId) : Prop :=
  ∃ entry ∈ m.rooms, entry.1 = roomId

/-- **`CreateRoom` returns a fresh, usable room**: its id is not 0 and no room's, it is found under
this id, and all others are found as before. -/
def CreatesFreshRoom (m : RoomManager) : Prop :=
  m.createRoom.1.roomId ≠ 0 ∧ ¬ m.Registered m.createRoom.1.roomId ∧
    m.createRoom.2.findRoom m.createRoom.1.roomId = some m.createRoom.1 ∧
    ∀ roomId room, m.findRoom roomId = some room → m.createRoom.2.findRoom roomId = some room

variable {m : RoomManager} {roomId : RoomId}

theorem registered_iff_any :
    m.Registered roomId ↔ (m.rooms.any fun entry => entry.1 = roomId) = true := by
  simp [Registered, List.any_eq_true]

/-- What `CreateRoom` does, if the next id is free and if it is not. -/
theorem createRoom_eq (m : RoomManager) :
    m.createRoom.1 = ⟨m.made, m.nextRoomId⟩ ∧ m.createRoom.2.nextRoomId = m.nextRoomId + 1 ∧
      (m.Registered m.nextRoomId → m.createRoom.2.rooms = m.rooms) ∧
      (¬ m.Registered m.nextRoomId →
        m.createRoom.2.rooms = m.rooms ++ [(m.nextRoomId, ⟨m.made, m.nextRoomId⟩)]) := by
  rw [registered_iff_any]
  unfold createRoom generateRoomId
  dsimp only
  split
  · next htaken => exact ⟨rfl, rfl, fun _ => rfl, fun hfree => absurd htaken hfree⟩
  · next hfree => exact ⟨rfl, rfl, fun htaken => absurd htaken hfree, fun _ => rfl⟩

theorem registered_createRoom :
    m.createRoom.2.Registered roomId ↔ m.Registered roomId ∨ roomId = m.nextRoomId := by
  obtain ⟨-, -, htaken, hfree⟩ := m.createRoom_eq
  by_cases hnext : m.Registered m.nextRoomId
  · unfold Registered
    rw [htaken hnext]
    constructor
    · exact Or.inl
    · rintro (hold | rfl)
      · exact hold
      · exact hnext
  · unfold Registered
    rw [hfree hnext]
    simp only [List.mem_append, List.mem_singleton, or_and_right, exists_or, exists_eq_left]
    exact or_congr_right eq_comm

theorem registered_removeRoom {removed : RoomId} :
    (m.removeRoom removed).Registered roomId ↔ m.Registered roomId ∧ roomId ≠ removed := by
  unfold Registered removeRoom
  simp only [List.mem_filter, decide_eq_true_eq]
  constructor
  · rintro ⟨entry, ⟨hin, hne⟩, rfl⟩
    exact ⟨⟨entry, hin, rfl⟩, hne⟩
  · rintro ⟨⟨entry, hin, rfl⟩, hne⟩
    exact ⟨entry, ⟨hin, hne⟩, rfl⟩

/-- **One call of `CreateRoom`** is right exactly if the next id is usable. -/
theorem createsFreshRoom_iff :
    m.CreatesFreshRoom ↔ m.nextRoomId ≠ 0 ∧ ¬ m.Registered m.nextRoomId := by
  obtain ⟨hroom, -, -, hfree⟩ := m.createRoom_eq
  unfold CreatesFreshRoom
  rw [hroom]
  constructor
  · intro h
    exact ⟨h.1, h.2.1⟩
  · rintro ⟨hzero, hnew⟩
    refine ⟨hzero, hnew, ?_, ?_⟩
    · have hnone : m.rooms.find? (fun entry => entry.1 = m.nextRoomId) = none := by
        rw [List.find?_eq_none]
        intro entry hin hkey
        exact hnew ⟨entry, hin, of_decide_eq_true hkey⟩
      rw [findRoom, hfree hnew, List.find?_append, hnone]
      simp
    · intro roomId room hfound
      obtain ⟨entry, hentry, hvalue⟩ := Option.map_eq_some_iff.mp hfound
      rw [findRoom, hfree hnew, List.find?_append, hentry]
      exact congrArg some hvalue

/-! ## All calls -/

/-- How many rooms some calls create. -/
def created (calls : List RoomManagerCall) : ℕ := calls.count .createRoom

/-- Among the rooms that got this id is one that has not been removed since. -/
def StillOpen (calls : List RoomManagerCall) (roomId : RoomId) : Prop :=
  ∃ before after, calls = before ++ .createRoom :: after ∧
    UInt32.ofNat (created before + 1) = roomId ∧ .removeRoom roomId ∉ after

variable {calls : List RoomManagerCall}

theorem created_concat_createRoom : created (calls ++ [.createRoom]) = created calls + 1 := by
  rw [created, List.count_append, List.count_singleton_self]
  rfl

theorem created_concat_removeRoom : created (calls ++ [.removeRoom roomId]) = created calls := by
  rw [created, List.count_append, List.count_singleton]
  rfl

/-- A call at the end comes behind a room that is created, or creates it. -/
theorem stillOpen_concat {call : RoomManagerCall} :
    StillOpen (calls ++ [call]) roomId ↔
      StillOpen calls roomId ∧ call ≠ .removeRoom roomId ∨
        call = .createRoom ∧ UInt32.ofNat (created calls + 1) = roomId := by
  constructor
  · rintro ⟨before, after, heq, hid, hopen⟩
    induction after using List.reverseRecOn with
    | nil =>
        obtain ⟨rfl, hcall⟩ := List.append_inj' heq rfl
        exact Or.inr ⟨List.head_eq_of_cons_eq hcall, hid⟩
    | append_singleton after last _ =>
        rw [← List.cons_append, ← List.append_assoc] at heq
        obtain ⟨hcalls, hcall⟩ := List.append_inj' heq rfl
        obtain rfl : call = last := List.head_eq_of_cons_eq hcall
        refine Or.inl ⟨⟨before, after, hcalls, hid, ?_⟩, ?_⟩
        · intro hin
          exact hopen (List.mem_append_left _ hin)
        · rintro rfl
          exact hopen (List.mem_append_right _ (List.mem_singleton_self _))
  · rintro (⟨⟨before, after, rfl, hid, hopen⟩, hcall⟩ | ⟨rfl, hid⟩)
    · refine ⟨before, after ++ [call], by simp, hid, fun hin => ?_⟩
      rcases List.mem_append.mp hin with hin | hin
      · exact hopen hin
      · exact hcall (List.mem_singleton.mp hin).symm
    · exact ⟨calls, [], rfl, hid, nofun⟩

theorem uint32_ofNat_succ (n : ℕ) : UInt32.ofNat n + 1 = UInt32.ofNat (n + 1) :=
  (UInt32.ofNat_add n 1).symm

/-- **The counter counts the rooms, and what is registered are the rooms that are still open.** -/
theorem run_spec (calls : List RoomManagerCall) :
    (run {} calls).nextRoomId = UInt32.ofNat (created calls + 1) ∧
      ∀ roomId, (run {} calls).Registered roomId ↔ StillOpen calls roomId := by
  induction calls using List.reverseRecOn with
  | nil =>
      refine ⟨rfl, fun roomId => ⟨?_, ?_⟩⟩
      · rintro ⟨entry, hin, -⟩
        cases hin
      · rintro ⟨before, after, heq, -⟩
        simp at heq
  | append_singleton calls call ih =>
      obtain ⟨hnext, hregistered⟩ := ih
      rw [run_concat]
      cases call with
      | createRoom =>
          obtain ⟨-, hcounter, -⟩ := (run {} calls).createRoom_eq
          refine ⟨?_, fun roomId => ?_⟩
          · rw [created_concat_createRoom, ← uint32_ofNat_succ, ← hnext]
            exact hcounter
          -- if the id is taken, the map keeps the room it has, and the id stays registered
          · rw [stillOpen_concat, ← hregistered, ← hnext]
            refine registered_createRoom.trans ?_
            simp [eq_comm]
      | removeRoom removed =>
          constructor
          · rw [created_concat_removeRoom, ← hnext]
            rfl
          · intro roomId
            rw [stillOpen_concat, ← hregistered]
            refine registered_removeRoom.trans ?_
            simp [eq_comm]

/-- Whether the next room is fresh can be told from the calls before it. -/
theorem createsFreshRoom_run_iff (before : List RoomManagerCall) :
    (run {} before).CreatesFreshRoom ↔ (created before + 1) % 2 ^ 32 ≠ 0 ∧
      ¬ StillOpen before (UInt32.ofNat (created before + 1)) := by
  obtain ⟨hnext, hregistered⟩ := run_spec before
  rw [createsFreshRoom_iff, hregistered, hnext]
  refine and_congr_left fun _ => not_congr ?_
  rw [← UInt32.toNat_inj, UInt32.toNat_ofNat']
  rfl

/-- **Every created room is fresh and usable** exactly if, at every call of `CreateRoom`, the number
of rooms created so far, this one included, is no multiple of `2 ^ 32`, and no room that got the
same id before is still open. -/
theorem created_rooms_fresh_iff (calls : List RoomManagerCall) :
    (∀ before, before ++ [.createRoom] <+: calls → (run {} before).CreatesFreshRoom) ↔
      ∀ before, before ++ [.createRoom] <+: calls →
        (created before + 1) % 2 ^ 32 ≠ 0 ∧
          ¬ StillOpen before (UInt32.ofNat (created before + 1)) :=
  forall₂_congr fun before _ => createsFreshRoom_run_iff before

/-- The first `2 ^ 32 - 1` rooms are all fresh and usable, whichever are removed. -/
theorem first_rooms_fresh (hfew : created calls < 2 ^ 32) {before : List RoomManagerCall}
    (hbefore : before ++ [.createRoom] <+: calls) : (run {} before).CreatesFreshRoom := by
  have hcount : created before + 1 < 2 ^ 32 := by
    rw [← created_concat_createRoom]
    exact (hbefore.sublist.count_le _).trans_lt hfew
  refine (createsFreshRoom_run_iff before).mpr ⟨by omega, ?_⟩
  -- an earlier room has a smaller number, and no number comes twice before the counter wraps
  rintro ⟨front, back, rfl, hid, -⟩
  have hless : created front + 1 < created (front ++ .createRoom :: back) + 1 := by
    simp only [created, List.count_append, List.count_cons_self]
    omega
  have hsame := congrArg UInt32.toNat hid
  simp only [UInt32.toNat_ofNat'] at hsame
  omega

/-- Rooms are created and removed again, one after the other. -/
def openAndClose (n : ℕ) : List RoomManagerCall :=
  (List.range n).flatMap fun k => [.createRoom, .removeRoom (UInt32.ofNat (k + 1))]

theorem created_openAndClose (n : ℕ) : created (openAndClose n) = n := by
  induction n with
  | zero => rfl
  | succ n ih =>
      have hsplit : openAndClose (n + 1) =
          (openAndClose n ++ [.createRoom]) ++ [.removeRoom (UInt32.ofNat (n + 1))] := by
        simp [openAndClose, List.range_succ]
      rw [hsplit, created_concat_removeRoom, created_concat_createRoom, ih]

/-- **The counter wraps**: behind `2 ^ 32 - 1` others, a room gets the id 0. -/
theorem created_rooms_fresh_wrapped :
    ¬ ∀ before, before ++ [.createRoom] <+: openAndClose (2 ^ 32 - 1) ++ [.createRoom] →
      (run {} before).CreatesFreshRoom := by
  intro h
  have hfresh := createsFreshRoom_iff.mp (h _ (List.prefix_refl _))
  rw [(run_spec _).1, created_openAndClose] at hfresh
  exact hfresh.1 rfl

end RoomManager

end NetworkArena.Server
