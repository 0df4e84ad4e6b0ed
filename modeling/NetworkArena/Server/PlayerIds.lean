/-
# NetworkArena.Server.PlayerIds -- the ids a room gives out

`GeneratePlayerId` counts upwards and stops behind the last 32 bit number, so an id is given out
once in the life of a room (`player_ids_identify`). What makes this a statement about runs is the
least id that has not been given out, `firstFree`: a step either keeps the seats it had, or adds one
with that id (`Room.Progress`). So whoever has a smaller id was there before, and whoever was not
there will never be there with a smaller id.

An `Enter` that is refused may use up an id as well, but only if the session is in the room already
(`rejected_entry_changes_nothing_iff`).
-/
import NetworkArena.Server.Seats

namespace NetworkArena.Server

open NetworkArena.Shared

variable {K ρ ω : Type}

/-! ## An entry that is refused -/

theorem followingPlayerId_ne {r : Room K ρ} (h : r.nextPlayerId ≠ 0) :
    r.followingPlayerId ≠ r.nextPlayerId := by
  intro heq
  rcases followingPlayerId_toNat r with hzero | hsucc
  · exact h (heq.symm.trans hzero)
  · rw [heq] at hsucc
    omega

/-- **An entry that is refused leaves the room as it was**, exactly unless the session is in the
room already and nothing else is wrong. In that case it uses up a player id. -/
theorem rejected_entry_changes_nothing_iff [Field K] [SessionObject ρ] (r : Room K ρ)
    (session : Option ρ) :
    (((r.enter session).1 = none → (r.enter session).2 = r) ↔ ¬ r.OnlyAlreadyIn session) ∧
      (r.OnlyAlreadyIn session →
        r.enter session = (none, { r with nextPlayerId := r.followingPlayerId })) := by
  rcases r.enter_cases session with
    ⟨playerId, ⟨rfl, hnot⟩ | ⟨halready, rfl⟩, hrefused⟩ | ⟨entering, rfl, hadmits, hentered⟩
  · rw [hrefused]
    exact ⟨⟨fun _ => hnot, fun _ _ => rfl⟩, fun halready => absurd halready hnot⟩
  · refine ⟨⟨fun hsame _ => ?_, fun hnot => absurd halready hnot⟩, fun _ => hrefused⟩
    rw [hrefused] at hsame
    obtain ⟨_, -, -, -, -, hnext, -⟩ := halready
    exact followingPlayerId_ne hnext (congrArg Room.nextPlayerId (hsame rfl))
  · have hnot : ¬ r.OnlyAlreadyIn (some entering) := by
      rintro ⟨_, ⟨rfl⟩, -, -, -, -, entry, hentry, hkey⟩
      exact hadmits.new entry hentry hkey
    refine ⟨⟨fun _ => hnot, fun _ hnone => ?_⟩, fun halready => absurd halready hnot⟩
    rw [hentered] at hnone
    cases hnone

/-- Session 5 enters a new room, and enters it again. -/
theorem rejected_entry_uses_id :
    ((Room.create 1 : Room ℚ SessionId).enter (some 5)).2.nextPlayerId = 2 ∧
      (((Room.create 1 : Room ℚ SessionId).enter (some 5)).2.enter (some 5)).1 = none ∧
      (((Room.create 1 : Room ℚ SessionId).enter (some 5)).2.enter (some 5)).2 ≠
        ((Room.create 1 : Room ℚ SessionId).enter (some 5)).2 := by
  decide +kernel

/-! ## What a step does to the ids -/

/-- The least id that has not been given out. -/
def Room.firstFree (r : Room K ρ) : ℕ :=
  if r.nextPlayerId = 0 then 2 ^ 32 else r.nextPlayerId.toNat

theorem Room.firstFree_next {r : Room K ρ} (h : r.nextPlayerId ≠ 0) :
    r.firstFree = r.nextPlayerId.toNat := if_neg h

/-- One id further. -/
theorem Room.firstFree_following {r r' : Room K ρ} (h : r.nextPlayerId ≠ 0)
    (hnext : r'.nextPlayerId = r.followingPlayerId) : r'.firstFree = r.firstFree + 1 := by
  rw [Room.firstFree_next h]
  unfold Room.firstFree
  rw [hnext]
  unfold Room.followingPlayerId
  by_cases hlast : r.nextPlayerId = 4294967295
  · rw [if_pos hlast, if_pos rfl, hlast]
    rfl
  · rw [if_neg hlast]
    have hne : r.nextPlayerId.toNat ≠ 4294967295 := fun heq => hlast (UInt32.toNat_inj.mp heq)
    have hlt := r.nextPlayerId.toNat_lt
    have hsucc : (r.nextPlayerId + 1).toNat = r.nextPlayerId.toNat + 1 := by
      rw [UInt32.toNat_add]
      exact Nat.mod_eq_of_lt (by simp only [UInt32.toNat_ofNat]; omega)
    rw [if_neg, hsucc]
    intro hzero
    rw [hzero] at hsucc
    simp at hsucc

theorem Room.Numbered.lt_firstFree {r : Room K ρ} (h : r.Numbered) {seat : Seat K ρ}
    (hseat : seat ∈ r.seats) : seat.playerId.toNat < r.firstFree := by
  unfold Room.firstFree
  split
  · exact seat.playerId.toNat_lt
  · next hnext => exact h.next.resolve_left hnext _ (List.mem_map_of_mem hseat)

/-- What some operations do to the ids: those they return are new and in order, and so is every
player that was not there before. -/
structure Room.Advance (r r' : Room K ρ) (ids : List PlayerId) : Prop where
  free : r.firstFree ≤ r'.firstFree
  fresh : ∀ playerId ∈ ids, r.firstFree ≤ playerId.toNat ∧ playerId.toNat < r'.firstFree
  valid : ∀ playerId ∈ ids, playerId ≠ 0
  increasing : ids.Pairwise (· < ·)
  players : ∀ tag ∈ r'.tags, tag ∈ r.tags ∨ r.firstFree ≤ tag.2.1.toNat

section Advance

variable {r r' r'' : Room K ρ} {ids ids' : List PlayerId}

theorem Room.Advance.trans (h : r.Advance r' ids) (h' : r'.Advance r'' ids') :
    r.Advance r'' (ids ++ ids') := by
  have hfree := h.free
  have hfree' := h'.free
  refine ⟨hfree.trans hfree', ?_, ?_,
    List.pairwise_append.mpr ⟨h.increasing, h'.increasing, ?_⟩, ?_⟩
  · intro playerId hin
    rcases List.mem_append.mp hin with hin | hin
    · have hfresh := h.fresh playerId hin
      omega
    · have hfresh := h'.fresh playerId hin
      omega
  · intro playerId hin
    rcases List.mem_append.mp hin with hin | hin
    · exact h.valid playerId hin
    · exact h'.valid playerId hin
  · intro earlier hin later hin'
    have hfresh := h.fresh earlier hin
    have hfresh' := h'.fresh later hin'
    rw [UInt32.lt_iff_toNat_lt]
    omega
  · intro tag hin
    rcases h'.players tag hin with hin | hnew
    · exact h.players tag hin
    · exact Or.inr (hfree.trans hnew)

/-- A player that was there before with this id is this player. -/
theorem Room.Advance.same_id (h : r.Advance r' ids) (hnumbered : r.Numbered) {seat seat' : Seat K ρ}
    (hseat : seat ∈ r.seats) (hseat' : seat' ∈ r'.seats) (hid : seat'.playerId = seat.playerId) :
    seat'.tag = seat.tag := by
  have hless := hnumbered.lt_firstFree hseat
  rcases h.players seat'.tag (List.mem_map_of_mem hseat') with hin | hnew
  · obtain ⟨old, hold, htag⟩ := List.mem_map.mp hin
    have hsame : old.playerId = seat.playerId := (congrArg (·.2.1) htag).trans hid
    rw [← htag, List.inj_on_of_nodup_map hnumbered.distinct hold hseat hsame]
  · change r.firstFree ≤ seat'.playerId.toNat at hnew
    rw [hid] at hnew
    omega

/-- **Whoever has left never comes back** under the same id. -/
theorem Room.Advance.gone (h : r.Advance r' ids) (h' : r'.Advance r'' ids')
    (hnumbered : r.Numbered) {seat : Seat K ρ} (hseat : seat ∈ r.seats)
    (hgone : ∀ seat' ∈ r'.seats, seat'.key ≠ seat.key) :
    ∀ seat'' ∈ r''.seats, seat''.playerId ≠ seat.playerId := by
  intro seat'' hseat'' hid
  rcases h'.players seat''.tag (List.mem_map_of_mem hseat'') with hin | hnew
  · obtain ⟨seat', hseat', htag⟩ := List.mem_map.mp hin
    have hsame := h.same_id hnumbered hseat hseat' ((congrArg (·.2.1) htag).trans hid)
    exact hgone seat' hseat' (congrArg Prod.fst hsame)
  · change r'.firstFree ≤ seat''.playerId.toNat at hnew
    have hless := hnumbered.lt_firstFree hseat
    have hfree := h.free
    rw [hid] at hnew
    omega

end Advance

/-! ## What an operation does -/

/-- What one operation does to the players: some may leave, or a new one takes the next id. The id
returned is the one of the new player. -/
inductive Room.Progress [SessionObject ρ] (r r' : Room K ρ) : Option PlayerId → Prop where
  | kept (htags : r'.tags.Sublist r.tags) (hfree : r.firstFree ≤ r'.firstFree) : Progress r r' none
  | added (session : ρ) (side : PlayerSide) (hnext : r.nextPlayerId ≠ 0)
      (hnew : ∀ seat ∈ r.seats, seat.key ≠ SessionObject.getId session)
      (htags : r'.tags =
        r.tags ++ [(SessionObject.getId session, r.nextPlayerId, some session, side)])
      (hfree : r'.firstFree = r.firstFree + 1) : Progress r r' (some r.nextPlayerId)

variable [SessionObject ρ]

theorem Room.progress_kept {r r' : Room K ρ} (htags : r'.tags.Sublist r.tags)
    (hnext : r'.nextPlayerId = r.nextPlayerId) : r.Progress r' none := by
  refine .kept htags (le_of_eq ?_)
  rw [Room.firstFree, Room.firstFree, hnext]

/-- Between two operations, a session keeps its id and side. -/
theorem Room.Progress.same_key {r r' : Room K ρ} {id : Option PlayerId} (h : r.Progress r' id)
    (hkeys : (r.seats.map (·.key)).Nodup) {seat seat' : Seat K ρ} (hseat : seat ∈ r.seats)
    (hseat' : seat' ∈ r'.seats) (hkey : seat'.key = seat.key) : seat'.tag = seat.tag := by
  have htag' : seat'.tag ∈ r'.tags := List.mem_map_of_mem hseat'
  -- whoever was there before with this session is this player
  have hold : seat'.tag ∈ r.tags → seat'.tag = seat.tag := by
    intro hin
    obtain ⟨old, hold, htag⟩ := List.mem_map.mp hin
    have hsame : old.key = seat.key := (congrArg Prod.fst htag).trans hkey
    rw [← htag, List.inj_on_of_nodup_map hkeys hold hseat hsame]
  cases h with
  | kept htags _ => exact hold (htags.subset htag')
  | added session side hnext hnew htags _ =>
      rw [htags] at htag'
      rcases List.mem_append.mp htag' with hin | hin
      · exact hold hin
      · have hid : seat'.key = SessionObject.getId session :=
          congrArg Prod.fst (List.mem_singleton.mp hin)
        exact absurd (hkey.symm.trans hid) (hnew seat hseat)

theorem Room.Progress.advance {r r' : Room K ρ} {id : Option PlayerId} (h : r.Progress r' id) :
    r.Advance r' id.toList := by
  cases h with
  | kept htags hfree =>
      exact ⟨hfree, nofun, nofun, .nil, fun tag hin => Or.inl (htags.subset hin)⟩
  | added session side hnext _ htags hfree =>
      have hfirst := Room.firstFree_next hnext
      refine ⟨by omega, ?_, ?_, List.pairwise_singleton _ _, ?_⟩
      · intro playerId hin
        rw [List.mem_singleton.mp hin]
        omega
      · intro playerId hin
        rw [List.mem_singleton.mp hin]
        exact hnext
      · intro tag hin
        rw [htags] at hin
        rcases List.mem_append.mp hin with hin | hin
        · exact Or.inl hin
        · rw [List.mem_singleton.mp hin]
          exact Or.inr hfirst.le

variable [Field K]

theorem Room.progress_leave (r : Room K ρ) (sessionId : SessionId) :
    r.Progress (r.leave sessionId) none := by
  obtain ⟨-, -, hnext, -⟩ := r.leave_frame sessionId
  exact Room.progress_kept (r.tags_leave sessionId) hnext

omit [SessionObject ρ] in
theorem Room.numbered_create (id : RoomId) :
    (Room.create id : Room K ρ).Numbered :=
  ⟨nofun, List.nodup_nil, Or.inr nofun⟩

variable [LinearOrder K]

omit [SessionObject ρ] in
theorem Room.Consistent.keys {r : Room K ρ} (h : r.Consistent) : (r.seats.map (·.key)).Nodup := by
  rw [Room.seats, List.map_map]
  exact h.roster.keys

theorem Room.progress_enter (r : Room K ρ) (session : Option ρ) :
    r.Progress (r.enter session).2 (r.enter session).1 := by
  cases session with
  | none => exact Room.progress_kept (List.Sublist.refl _) rfl
  | some session =>
      rcases r.enter_frame session with ⟨playerId, hplayerId, hrefused⟩ | ⟨r', henter, hentered⟩
      · rw [hrefused]
        refine .kept (List.Sublist.refl _) ?_
        rcases hplayerId with rfl | ⟨hnext, rfl⟩
        · exact le_refl _
        · exact (Nat.le_succ _).trans (Room.firstFree_following hnext rfl).ge
      · rw [henter]
        refine .added session r.freeSide hentered.admits.playerId ?_ hentered.tags
          (Room.firstFree_following hentered.admits.playerId hentered.nextPlayerId)
        intro seat hseat
        obtain ⟨entry, hentry, rfl⟩ := Room.mem_seats.mp hseat
        exact hentered.admits.new entry hentry

/-- The id that `Enter` returns is the one of the session that has entered. -/
theorem Room.enter_returns {r : Room K ρ} {session : Option ρ} {playerId : PlayerId}
    (h : (r.enter session).1 = some playerId) :
    ∃ entering, session = some entering ∧ ∃ seat ∈ (r.enter session).2.seats,
      seat.key = SessionObject.getId entering ∧ seat.session = some entering ∧
        seat.playerId = playerId := by
  cases session with
  | none => cases h
  | some entering =>
      refine ⟨entering, rfl, ?_⟩
      rcases r.enter_frame entering with ⟨_, -, hrefused⟩ | ⟨r', henter, hentered⟩
      · rw [hrefused] at h
        cases h
      · rw [henter] at h ⊢
        obtain rfl : r.nextPlayerId = playerId := Option.some.inj h
        refine ⟨r.newSeat entering, ?_, rfl, rfl, rfl⟩
        rcases hentered.seats with ⟨-, hseats⟩ | ⟨-, -, hseats⟩
        · rw [hseats]
          exact List.mem_append_right _ (List.mem_singleton_self _)
        · rw [hseats]
          exact List.mem_append_right _ (List.mem_singleton_self _)

/-- The id that an operation returns, if it is an `Enter` that succeeds. -/
def Room.returnedId (r : Room K ρ) : RoomEvent K ρ ω → Option PlayerId
  | .enter session => (r.enter session).1
  | _ => none

variable [IsStrictOrderedRing K] [FloorRing K] [HasSqrt K]

/-- **Every operation** keeps the ids in order. -/
theorem Room.progress_step (sessions : Room.Sessions ρ ω) (t : Room K ρ × ω)
    (event : RoomEvent K ρ ω) :
    t.1.Progress (Room.step sessions t event).1 (t.1.returnedId event) := by
  cases event with
  | enter session => exact t.1.progress_enter session
  | leave sessionId => exact t.1.progress_leave sessionId
  | applyPlayerInput sessionId input =>
      obtain ⟨-, -, hnext, -⟩ := t.1.applyPlayerInput_frame sessionId input
      refine Room.progress_kept ?_ hnext
      show (t.1.applyPlayerInput sessionId input).2.tags.Sublist _
      rw [Room.tags_applyPlayerInput]
  | tick deltaSeconds =>
      obtain ⟨-, -, hnext, -⟩ := t.1.tick_frame deltaSeconds
      refine Room.progress_kept ?_ hnext
      show (t.1.tick deltaSeconds).tags.Sublist _
      rw [Room.tags_tick]
  | broadcast type payload =>
      have hleaves : (t.1.broadcast sessions type payload t.2).1.tags.Sublist t.1.tags ∧
          (t.1.broadcast sessions type payload t.2).1.nextPlayerId = t.1.nextPlayerId := by
        refine Room.broadcast_induction
          (P := fun r => r.tags.Sublist t.1.tags ∧ r.nextPlayerId = t.1.nextPlayerId) ?_ sessions
          type payload t.2 ⟨List.Sublist.refl _, rfl⟩
        intro r sessionId h
        obtain ⟨-, -, hnext, -⟩ := r.leave_frame sessionId
        exact ⟨(r.tags_leave sessionId).trans h.1, hnext.trans h.2⟩
      exact Room.progress_kept hleaves.1 hleaves.2
  | sessions w => exact Room.progress_kept (List.Sublist.refl _) rfl

/-! ## Runs -/

/-- The ids that the operations of a run return, in order. -/
def Room.returnedIds (sessions : Room.Sessions ρ ω) :
    Room K ρ × ω → List (RoomEvent K ρ ω) → List PlayerId
  | _, [] => []
  | t, event :: events =>
    (t.1.returnedId event).toList ++ returnedIds sessions (Room.step sessions t event) events

theorem Room.advance_run (sessions : Room.Sessions ρ ω) (t : Room K ρ × ω)
    (events : List (RoomEvent K ρ ω)) :
    t.1.Advance (Room.run sessions t events).1 (Room.returnedIds sessions t events) := by
  induction events generalizing t with
  | nil => exact ⟨le_refl _, nofun, nofun, .nil, fun _ hin => Or.inl hin⟩
  | cons event events ih => exact (Room.progress_step sessions t event).advance.trans (ih _)

theorem Room.Numbered.run {t : Room K ρ × ω} (h : t.1.Numbered) (sessions : Room.Sessions ρ ω)
    (events : List (RoomEvent K ρ ω)) : (Room.run sessions t events).1.Numbered := by
  induction events generalizing t with
  | nil => exact h
  | cons event events ih => exact ih (h.step sessions event)

/-- While a session stays in the room, it keeps its id and side. -/
theorem Room.stays_same (sessions : Room.Sessions ρ ω) {t : Room K ρ × ω} (h : t.1.Consistent)
    {seat : Seat K ρ} (hseat : seat ∈ t.1.seats) (events : List (RoomEvent K ρ ω))
    (hstays : ∀ before, before <+: events →
      ∃ seat' ∈ (Room.run sessions t before).1.seats, seat'.key = seat.key) {seat' : Seat K ρ}
    (hseat' : seat' ∈ (Room.run sessions t events).1.seats) (hkey : seat'.key = seat.key) :
    seat'.tag = seat.tag := by
  induction events generalizing t seat with
  | nil => rw [List.inj_on_of_nodup_map h.keys hseat' hseat hkey]
  | cons event events ih =>
      obtain ⟨next, hnext, hnextKey⟩ :=
        hstays [event] (List.cons_prefix_cons.mpr ⟨rfl, List.nil_prefix⟩)
      have hsame := (Room.progress_step sessions t event).same_key h.keys hseat hnext hnextKey
      rw [← hsame]
      refine ih (h.step sessions event) hnext (fun before hbefore => ?_) hseat'
        (hkey.trans hnextKey.symm)
      obtain ⟨later, hlater, hlaterKey⟩ :=
        hstays (event :: before) (List.cons_prefix_cons.mpr ⟨rfl, hbefore⟩)
      exact ⟨later, hlater, hlaterKey.trans hnextKey.symm⟩

omit [LinearOrder K] [IsStrictOrderedRing K] [FloorRing K] [HasSqrt K] in
/-- Behind the last id nobody is let in. -/
theorem Room.enter_exhausted {r : Room K ρ} (h : 2 ^ 32 ≤ r.firstFree) (session : Option ρ) :
    (r.enter session).1 = none := by
  have hlast : r.nextPlayerId = 0 := by
    by_contra hnext
    rw [Room.firstFree_next hnext] at h
    have hlt := r.nextPlayerId.toNat_lt
    omega
  rcases r.enter_cases session with ⟨playerId, -, hrefused⟩ | ⟨entering, -, hadmits, -⟩
  · rw [hrefused]
  · exact absurd hlast hadmits.playerId

/-- **Player ids identify one player for the whole life of a room.** In every run, the ids that
`Enter` returns increase and are never 0, and behind the last one every `Enter` is refused; each is
the id of the session that has entered. The players of a snapshot have different ids. A player that
is in the room at two times has one id, one session and one side, and so has a session while it
stays. Once it has left, its id is in no later snapshot. -/
theorem player_ids_identify (id : RoomId) (sessions : Room.Sessions ρ ω) (w : ω)
    (events : List (RoomEvent K ρ ω)) :
    let t := Room.run sessions (Room.create id, w)
    let ids := Room.returnedIds sessions (Room.create id, w)
    ((ids events).Pairwise (· < ·) ∧ ∀ playerId ∈ ids events, playerId ≠ 0) ∧
    (4294967295 ∈ ids events → ∀ session, ((t events).1.enter session).1 = none) ∧
    (∀ session playerId, ((t events).1.enter session).1 = some playerId →
      ∃ entering, session = some entering ∧ ∃ seat ∈ ((t events).1.enter session).2.seats,
        seat.key = SessionObject.getId entering ∧ seat.session = some entering ∧
          seat.playerId = playerId) ∧
    (∀ serverTick, (((t events).1.captureSnapshot serverTick).players.map (·.playerId)).Nodup) ∧
    ∀ before after, events = before ++ after → ∀ seat ∈ (t before).1.seats,
      (∀ seat' ∈ (t events).1.seats, seat'.playerId = seat.playerId → seat'.tag = seat.tag) ∧
      ((∀ middle, middle <+: after →
          ∃ seat' ∈ (t (before ++ middle)).1.seats, seat'.key = seat.key) →
        ∀ seat' ∈ (t events).1.seats, seat'.key = seat.key → seat'.tag = seat.tag) ∧
      ∀ middle, middle <+: after →
        (∀ seat' ∈ (t (before ++ middle)).1.seats, seat'.key ≠ seat.key) →
          ∀ serverTick, seat.playerId ∉
            ((t events).1.captureSnapshot serverTick).players.map (·.playerId) := by
  dsimp only
  have hadvance := Room.advance_run sessions ((Room.create id : Room K ρ), w) events
  have hnumbered : ∀ events,
      (Room.run sessions ((Room.create id : Room K ρ), w) events).1.Numbered :=
    fun events => (Room.numbered_create id).run sessions events
  have hsplit : ∀ before after, Room.run sessions ((Room.create id : Room K ρ), w)
      (before ++ after) =
        Room.run sessions (Room.run sessions (Room.create id, w) before) after :=
    fun before after => List.foldl_append
  refine ⟨⟨hadvance.increasing, hadvance.valid⟩, ?_, ?_, ?_, ?_⟩
  -- the last id is below the next free one, so that one is not a 32-bit number any more
  · intro hlast session
    have hless := (hadvance.fresh _ hlast).2
    exact Room.enter_exhausted hless session
  · intro session playerId
    exact Room.enter_returns
  · intro serverTick
    exact ((Room.captureSnapshot_ids _ serverTick).nodup_iff).mpr (hnumbered events).distinct
  · rintro before after rfl seat hseat
    have hlater := Room.advance_run sessions
      (Room.run sessions ((Room.create id : Room K ρ), w) before) after
    rw [← hsplit] at hlater
    refine ⟨?_, ?_, ?_⟩
    · intro seat'
      exact hlater.same_id (hnumbered before) hseat
    · intro hstays seat' hseat' hkey
      rw [hsplit] at hseat'
      refine Room.stays_same sessions (room_phase_invariant id sessions w before) hseat after ?_
        hseat' hkey
      intro middle hmiddle
      rw [← hsplit]
      exact hstays middle hmiddle
    -- the run has three parts: it is seated before, gone in the middle, and asked for in the rest
    · rintro middle ⟨rest, rfl⟩ hgone serverTick hin
      have hmiddle := Room.advance_run sessions
        (Room.run sessions ((Room.create id : Room K ρ), w) before) middle
      have hrest := Room.advance_run sessions
        (Room.run sessions ((Room.create id : Room K ρ), w) (before ++ middle)) rest
      rw [← hsplit] at hmiddle hrest
      rw [List.append_assoc] at hrest
      rw [(Room.captureSnapshot_ids _ serverTick).mem_iff] at hin
      obtain ⟨seat', hseat', hid⟩ := List.mem_map.mp hin
      exact hmiddle.gone hrest (hnumbered before) hseat hgone seat' hseat' hid

/-- Sessions 5 and 6 enter, session 5 leaves, enters again and finds session 6 still there. -/
def leavesAndReturns : List (RoomEvent ℚ SessionId Unit) :=
  [.enter (some 5), .enter (some 6), .leave 5, .enter (some 5), .tick (1 / 60)]

theorem player_ids_identify_returned :
    Room.returnedIds liveSessions ((Room.create 1 : Room ℚ SessionId), ()) leavesAndReturns =
        [1, 2, 3] ∧
      ∀ serverTick, 1 ∉ ((Room.run liveSessions ((Room.create 1 : Room ℚ SessionId), ())
        leavesAndReturns).1.captureSnapshot serverTick).players.map (·.playerId) := by
  refine ⟨by decide +kernel, ?_⟩
  obtain ⟨-, -, -, -, hplayers⟩ :=
    player_ids_identify (K := ℚ) 1 liveSessions () leavesAndReturns
  obtain ⟨-, -, hgone⟩ := hplayers [.enter (some 5)] _ rfl
    ⟨5, 1, some 5, .flame, 0, 0, false⟩ List.mem_cons_self
  refine hgone [.enter (some 6), .leave 5] ⟨_, rfl⟩ ?_
  intro seat' hseat'
  have hkeys : ((Room.run liveSessions ((Room.create 1 : Room ℚ SessionId), ())
      [.enter (some 5), .enter (some 6), .leave 5]).1.seats.map (·.key)) = [6] := by decide +kernel
  have hin : seat'.key ∈ [6] := by
    rw [← hkeys]
    exact List.mem_map_of_mem hseat'
  rw [List.mem_singleton.mp hin]
  decide

end NetworkArena.Server
