/-
# NetworkArena.Server.Broadcast -- a broadcast and the departures it causes

`Broadcast` sends to every player whose session is still there, notes who has expired and whom it
could not send to, and lets them leave afterwards. Stopping a session that failed calls `Leave` once
more from inside, so what is followed here is the list of all calls of `Leave` (`broadcastLeaves`):
the room after a broadcast is the room after these calls, and of the calls for one player the first
takes effect and the others find nothing.

What the sessions do is a parameter first. Two things are relied on (`Separate`): sending to one
session does not change the outcome for another, and a session that closes leaves with its own id.
Both hold of the sessions of the server.
-/
import NetworkArena.Server.PlayerIds
import NetworkArena.Server.Registry

namespace NetworkArena.Server

open NetworkArena.Shared

variable {K ρ ω : Type}

/-! ## Many departures -/

section Departures

variable [Field K] {r : Room K ρ}

theorem Room.leave_players (r : Room K ρ) (sessionId : SessionId) :
    (r.leave sessionId).players = r.players.filter fun entry => entry.1 ≠ sessionId := by
  unfold Room.leave
  split
  · dsimp only
    split <;> rfl
  · next hunknown =>
      symm
      apply List.filter_eq_self.mpr
      intro entry hentry
      apply decide_eq_true
      intro hkey
      exact hunknown (List.any_eq_true.mpr ⟨entry, hentry, decide_eq_true hkey⟩)

theorem Room.leaves_players (r : Room K ρ) (ids : List SessionId) :
    (ids.foldl Room.leave r).players = r.players.filter fun entry => entry.1 ∉ ids := by
  induction ids generalizing r with
  | nil => simp
  | cons sessionId ids ih =>
      rw [List.foldl_cons, ih, Room.leave_players, List.filter_filter]
      apply List.filter_congr
      intro entry _
      simp [not_or, Bool.and_comm]

/-- The calls of `Leave` that take effect, among a number of them. -/
def Room.departures (r : Room K ρ) : List SessionId → List SessionId
  | [] => []
  | sessionId :: ids =>
    if r.players.any fun entry => entry.1 = sessionId then
      sessionId :: (r.leave sessionId).departures ids
    else (r.leave sessionId).departures ids

theorem Room.mem_departures {ids : List SessionId} {sessionId : SessionId} :
    sessionId ∈ r.departures ids ↔ sessionId ∈ ids ∧ ∃ entry ∈ r.players, entry.1 = sessionId := by
  induction ids generalizing r with
  | nil => simp [Room.departures]
  | cons id ids ih =>
      have hrest : sessionId ∈ (r.leave id).departures ids ↔
          sessionId ∈ ids ∧ sessionId ≠ id ∧ ∃ entry ∈ r.players, entry.1 = sessionId := by
        rw [ih, Room.leave_players, exists_key_filter]
      unfold Room.departures
      by_cases hsame : sessionId = id
      · subst hsame
        split
        · next hany =>
            obtain ⟨entry, hentry, hkey⟩ := List.any_eq_true.mp hany
            exact iff_of_true List.mem_cons_self
              ⟨List.mem_cons_self, entry, hentry, of_decide_eq_true hkey⟩
        · next hnone =>
            rw [hrest]
            refine iff_of_false (fun h => h.2.1 rfl) ?_
            rintro ⟨-, entry, hentry, hkey⟩
            exact hnone (List.any_eq_true.mpr ⟨entry, hentry, decide_eq_true hkey⟩)
      · have hboth : sessionId ∈ id :: ids ↔ sessionId ∈ ids := by
          rw [List.mem_cons, or_iff_right hsame]
        split
        · rw [List.mem_cons, or_iff_right hsame, hrest, hboth, and_iff_right hsame]
        · rw [hrest, hboth, and_iff_right hsame]

/-- **Nobody departs twice.** -/
theorem Room.departures_nodup (r : Room K ρ) (ids : List SessionId) : (r.departures ids).Nodup := by
  induction ids generalizing r with
  | nil => exact List.nodup_nil
  | cons sessionId ids ih =>
      unfold Room.departures
      split
      · refine List.nodup_cons.mpr ⟨?_, ih _⟩
        rw [Room.mem_departures, Room.leave_players, exists_key_filter]
        intro h
        exact h.2.1 rfl
      · exact ih _

end Departures

/-! ## Sessions -/

namespace Room

/-- The sessions, with a record of the messages that are sent to them. -/
def Sessions.recorded (sessions : Room.Sessions ρ ω) :
    Room.Sessions ρ (ω × List (ρ × MessageType × List UInt8)) where
  lock session t := sessions.lock session t.1
  send session type payload t :=
    let (sent, w) := sessions.send session type payload t.1
    (sent, w, t.2 ++ [(session, type, payload)])
  stop session t :=
    let (left, w) := sessions.stop session t.1
    (left, w, t.2)

/-- What is relied on of the sessions. -/
structure Sessions.Separate [SessionObject ρ] (sessions : Room.Sessions ρ ω) : Prop where
  lock : ∀ {session session' : ρ} (type : MessageType) (payload : List UInt8) (w : ω),
    session' ≠ session →
      sessions.lock session' (sessions.send session type payload w).2 = sessions.lock session' w
  send : ∀ {session session' : ρ} (type : MessageType) (payload : List UInt8) (w : ω),
    session' ≠ session →
      (sessions.send session' type payload (sessions.send session type payload w).2).1 =
        (sessions.send session' type payload w).1
  stop : ∀ (session : ρ) (w : ω), ∀ sessionId ∈ (sessions.stop session w).1,
    sessionId = SessionObject.getId session

/-- What becomes of the message to a player. -/
inductive Outcome where
  | expired
  | failed
  | sent
  deriving DecidableEq, Repr

/-- The outcome for a session, as it is in a world. -/
def Sessions.outcome (sessions : Room.Sessions ρ ω) (type : MessageType) (payload : List UInt8)
    (w : ω) (session : Option ρ) : Outcome :=
  match session.filter (sessions.lock · w) with
  | none => .expired
  | some session => if (sessions.send session type payload w).1 then .sent else .failed

/-- The calls of `Leave` in the last loop of `Broadcast`, and the world behind it. -/
def failedLeaves [SessionObject ρ] (sessions : Room.Sessions ρ ω) :
    List ρ → ω → List SessionId × ω
  | [], w => ([], w)
  | session :: failedSessions, w =>
    let (left, w) := sessions.stop session w
    let (leaves, w) := failedLeaves sessions failedSessions w
    (SessionObject.getId session :: left ++ leaves, w)

/-- All calls of `Leave` in a broadcast. -/
def broadcastLeaves [SessionObject ρ] (sessions : Room.Sessions ρ ω) (type : MessageType)
    (payload : List UInt8) (r : Room K ρ) (w : ω) : List SessionId :=
  let ((expiredSessionIds, failedSessions), w) := broadcastLoop sessions type payload r.players w
  expiredSessionIds ++ (failedLeaves sessions failedSessions w).1

end Room

section Loops

variable [SessionObject ρ] {sessions : Room.Sessions ρ ω} {players : List (SessionId × Player K ρ)}
  {type : MessageType} {payload : List UInt8}

omit [SessionObject ρ] in
theorem outcome_unlocked {session : ρ} {w : ω} (h : sessions.lock session w = false) :
    sessions.outcome type payload w (some session) = .expired := by
  unfold Room.Sessions.outcome
  rw [Option.filter_some, if_neg (by simp [h])]

omit [SessionObject ρ] in
theorem outcome_locked (type : MessageType) (payload : List UInt8) {session : ρ} {w : ω}
    (h : sessions.lock session w = true) :
    sessions.outcome type payload w (some session) =
      if (sessions.send session type payload w).1 then .sent else .failed := by
  unfold Room.Sessions.outcome
  rw [Option.filter_some, if_pos h]

/-- Sending to one session leaves the outcome for another. -/
theorem Room.Sessions.Separate.outcome (hseparate : sessions.Separate) {session : ρ}
    {session' : Option ρ} (hother : session' ≠ some session) (w : ω) :
    sessions.outcome type payload (sessions.send session type payload w).2 session' =
      sessions.outcome type payload w session' := by
  cases session' with
  | none => rfl
  | some session' =>
      have hne : session' ≠ session := fun heq => hother (congrArg some heq)
      have hlock := hseparate.lock type payload w hne
      cases hbefore : sessions.lock session' w with
      | false => rw [outcome_unlocked hbefore, outcome_unlocked (hlock.trans hbefore)]
      | true =>
          rw [outcome_locked type payload hbefore,
            outcome_locked type payload (hlock.trans hbefore),
            hseparate.send type payload w hne]

/-- The players behind one that was sent to, by a property of their outcomes. -/
theorem Room.Sessions.Separate.filter_outcome (hseparate : sessions.Separate) {session : ρ}
    (hnew : some session ∉ players.map (·.2.session)) (w : ω) (p : Room.Outcome → Prop)
    [DecidablePred p] :
    (players.filter fun entry => p (sessions.outcome type payload
        (sessions.send session type payload w).2 entry.2.session)) =
      players.filter fun entry => p (sessions.outcome type payload w entry.2.session) := by
  apply List.filter_congr
  intro entry hentry
  rw [hseparate.outcome]
  rintro heq
  exact hnew (heq ▸ List.mem_map_of_mem hentry)

omit [SessionObject ρ] in
@[simp] theorem recorded_send (session : ρ) (w : ω)
    (attempts : List (ρ × MessageType × List UInt8)) :
    sessions.recorded.send session type payload (w, attempts) =
      ((sessions.send session type payload w).1, (sessions.send session type payload w).2,
        attempts ++ [(session, type, payload)]) := rfl

omit [SessionObject ρ] in
/-- A session has expired, or it can be sent to. -/
theorem expired_or_locked (sessions : Room.Sessions ρ ω) (session : Option ρ) (w : ω) :
    session.filter (sessions.lock · w) = none ∨
      ∃ locked, session = some locked ∧ sessions.lock locked w = true := by
  cases hgood : session.filter (sessions.lock · w) with
  | none => exact Or.inl rfl
  | some locked => exact Or.inr ⟨locked, Option.filter_eq_some_iff.mp hgood⟩

omit [SessionObject ρ] in
theorem outcome_expired (type : MessageType) (payload : List UInt8) {session : Option ρ} {w : ω}
    (h : session.filter (sessions.lock · w) = none) :
    sessions.outcome type payload w session = .expired := by
  unfold Room.Sessions.outcome
  rw [h]

omit [SessionObject ρ] in
/-- The first loop at a player whose session has expired. -/
theorem broadcastLoop_expired {entry : SessionId × Player K ρ} {w : ω}
    (h : entry.2.session.filter (sessions.lock · w) = none) :
    Room.broadcastLoop sessions type payload (entry :: players) w =
      let rest := Room.broadcastLoop sessions type payload players w
      ((entry.1 :: rest.1.1, rest.1.2), rest.2) := by
  rw [Room.broadcastLoop, h]

omit [SessionObject ρ] in
/-- The first loop at any other player. -/
theorem broadcastLoop_locked {entry : SessionId × Player K ρ} {session : ρ} {w : ω}
    (hsession : entry.2.session = some session) (hlock : sessions.lock session w = true) :
    Room.broadcastLoop sessions type payload (entry :: players) w =
      let sending := sessions.send session type payload w
      let rest := Room.broadcastLoop sessions type payload players sending.2
      ((rest.1.1, if !sending.1 then session :: rest.1.2 else rest.1.2), rest.2) := by
  rw [Room.broadcastLoop, hsession, Option.filter_some, if_pos hlock]

/-- **The first loop** finds every outcome as it was before the loop. -/
theorem broadcastLoop_outcomes (type : MessageType) (payload : List UInt8)
    (hseparate : sessions.Separate) (hdistinct : (players.map (·.2.session)).Nodup) (w : ω) :
    (Room.broadcastLoop sessions type payload players w).1 =
      ((players.filter fun entry =>
          sessions.outcome type payload w entry.2.session = .expired).map (·.1),
        (players.filter fun entry =>
          sessions.outcome type payload w entry.2.session = .failed).filterMap (·.2.session)) := by
  induction players generalizing w with
  | nil => rfl
  | cons entry players ih =>
      rw [List.map_cons, List.nodup_cons] at hdistinct
      obtain ⟨hnew, hrest⟩ := hdistinct
      rcases expired_or_locked sessions entry.2.session w with hexpired | ⟨session, hsession, hlock⟩
      · have houtcome := outcome_expired type payload hexpired
        rw [broadcastLoop_expired hexpired]
        dsimp only
        rw [ih hrest w, List.filter_cons_of_pos (by simp [houtcome]),
          List.filter_cons_of_neg (by simp [houtcome])]
        rfl
      · have houtcome := outcome_locked type payload hlock
        rw [hsession] at hnew
        rw [broadcastLoop_locked hsession hlock]
        dsimp only
        rw [ih hrest, hseparate.filter_outcome hnew w (· = .expired),
          hseparate.filter_outcome hnew w (· = .failed)]
        simp only [List.filter_cons, hsession, houtcome]
        cases (sessions.send session type payload w).1 <;> simp [hsession]

/-- **The first loop** sends once to everyone who has not expired. -/
theorem broadcastLoop_recorded (hseparate : sessions.Separate)
    (hdistinct : (players.map (·.2.session)).Nodup) (w : ω)
    (attempts : List (ρ × MessageType × List UInt8)) :
    Room.broadcastLoop sessions.recorded type payload players (w, attempts) =
      ((Room.broadcastLoop sessions type payload players w).1,
        (Room.broadcastLoop sessions type payload players w).2,
        attempts ++ ((players.filter fun entry =>
          sessions.outcome type payload w entry.2.session ≠ .expired).filterMap
            (·.2.session)).map (·, type, payload)) := by
  induction players generalizing w attempts with
  | nil => simp [Room.broadcastLoop]
  | cons entry players ih =>
      rw [List.map_cons, List.nodup_cons] at hdistinct
      obtain ⟨hnew, hrest⟩ := hdistinct
      rcases expired_or_locked sessions entry.2.session w with hexpired | ⟨session, hsession, hlock⟩
      · have houtcome := outcome_expired type payload hexpired
        have hrecorded : entry.2.session.filter (sessions.recorded.lock · (w, attempts)) = none :=
          hexpired
        rw [broadcastLoop_expired hexpired, broadcastLoop_expired hrecorded]
        dsimp only
        rw [ih hrest w attempts, List.filter_cons_of_neg (by simp [houtcome])]
      · have houtcome := outcome_locked type payload hlock
        have hreached : sessions.outcome type payload w entry.2.session ≠ .expired := by
          rw [hsession, houtcome]
          split <;> nofun
        rw [hsession] at hnew
        have hrecorded : sessions.recorded.lock session (w, attempts) = true := hlock
        rw [broadcastLoop_locked hsession hlock, broadcastLoop_locked hsession hrecorded]
        simp only [recorded_send]
        rw [ih hrest, hseparate.filter_outcome hnew w (· ≠ .expired),
          List.filter_cons_of_pos (by simp [hreached])]
        simp only [List.filterMap_cons, hsession, List.map_cons, List.append_assoc]
        rfl

omit [SessionObject ρ] in
@[simp] theorem recorded_stop (session : ρ) (w : ω)
    (attempts : List (ρ × MessageType × List UInt8)) :
    sessions.recorded.stop session (w, attempts) =
      ((sessions.stop session w).1, (sessions.stop session w).2, attempts) := rfl

variable [Field K]

/-- **The last loop** is a number of departures. -/
theorem dropFailed_eq (sessions : Room.Sessions ρ ω) (failedSessions : List ρ) (r : Room K ρ)
    (w : ω) : Room.dropFailed sessions failedSessions r w =
      ((Room.failedLeaves sessions failedSessions w).1.foldl Room.leave r,
        (Room.failedLeaves sessions failedSessions w).2) := by
  induction failedSessions generalizing r w with
  | nil => rfl
  | cons session failedSessions ih =>
      unfold Room.dropFailed Room.failedLeaves
      dsimp only
      rw [ih, List.foldl_append]
      rfl

/-- The last loop sends nothing. -/
theorem dropFailed_recorded (sessions : Room.Sessions ρ ω) (failedSessions : List ρ) (r : Room K ρ)
    (w : ω) (attempts : List (ρ × MessageType × List UInt8)) :
    Room.dropFailed sessions.recorded failedSessions r (w, attempts) =
      ((Room.dropFailed sessions failedSessions r w).1,
        (Room.dropFailed sessions failedSessions r w).2, attempts) := by
  induction failedSessions generalizing r w with
  | nil => rfl
  | cons session failedSessions ih =>
      rw [Room.dropFailed, Room.dropFailed, recorded_stop]
      exact ih _ _

omit [Field K] in
/-- The last loop at one session. -/
theorem failedLeaves_cons (sessions : Room.Sessions ρ ω) (session : ρ) (failedSessions : List ρ)
    (w : ω) : Room.failedLeaves sessions (session :: failedSessions) w =
      (SessionObject.getId session :: (sessions.stop session w).1 ++
          (Room.failedLeaves sessions failedSessions (sessions.stop session w).2).1,
        (Room.failedLeaves sessions failedSessions (sessions.stop session w).2).2) := rfl

/-- In the last loop, the sessions that failed leave. -/
theorem mem_failedLeaves (hseparate : sessions.Separate) {failedSessions : List ρ} {w : ω}
    {sessionId : SessionId} : sessionId ∈ (Room.failedLeaves sessions failedSessions w).1 ↔
      ∃ session ∈ failedSessions, SessionObject.getId session = sessionId := by
  induction failedSessions generalizing w with
  | nil => simp [Room.failedLeaves]
  | cons session failedSessions ih =>
      have hown := hseparate.stop session w
      rw [failedLeaves_cons, List.cons_append, List.mem_cons, List.mem_append, ih,
        List.exists_mem_cons_iff]
      constructor
      · rintro (rfl | hagain | hlater)
        · exact Or.inl rfl
        · exact Or.inl (hown sessionId hagain).symm
        · exact Or.inr hlater
      · rintro (rfl | hlater)
        · exact Or.inl rfl
        · exact Or.inr (Or.inr hlater)

end Loops

/-! ## What a broadcast does -/

section Broadcast

variable [Field K] [SessionObject ρ] {sessions : Room.Sessions ρ ω} {r : Room K ρ}
  {type : MessageType} {payload : List UInt8}

/-- Every player refers to a session, and is kept under its id. -/
def Room.Referring (r : Room K ρ) : Prop :=
  ∀ entry ∈ r.players, ∃ session, entry.2.session = some session ∧
    SessionObject.getId session = entry.1

omit [Field K] in
theorem Room.Referring.distinct (h : r.Referring) (hkeys : (r.players.map (·.1)).Nodup) :
    (r.players.map (·.2.session)).Nodup := by
  have hids : (r.players.map fun entry => entry.2.session.map SessionObject.getId) =
      (r.players.map (·.1)).map some := by
    rw [List.map_map]
    apply List.map_congr_left
    intro entry hentry
    obtain ⟨session, hsession, hid⟩ := h entry hentry
    rw [hsession, Option.map_some, hid]
    rfl
  apply List.Nodup.of_map (Option.map SessionObject.getId)
  rw [List.map_map]
  show (r.players.map fun entry => entry.2.session.map SessionObject.getId).Nodup
  rw [hids]
  exact hkeys.map (Option.some_injective _)

omit [Field K] in
theorem broadcastLeaves_eq (sessions : Room.Sessions ρ ω) (type : MessageType)
    (payload : List UInt8) (r : Room K ρ) (w : ω) :
    Room.broadcastLeaves sessions type payload r w =
      (Room.broadcastLoop sessions type payload r.players w).1.1 ++
        (Room.failedLeaves sessions (Room.broadcastLoop sessions type payload r.players w).1.2
          (Room.broadcastLoop sessions type payload r.players w).2).1 := rfl

/-- **A broadcast is a number of departures.** -/
theorem broadcast_eq (sessions : Room.Sessions ρ ω) (type : MessageType) (payload : List UInt8)
    (r : Room K ρ) (w : ω) : r.broadcast sessions type payload w =
      ((Room.broadcastLeaves sessions type payload r w).foldl Room.leave r,
        (Room.failedLeaves sessions (Room.broadcastLoop sessions type payload r.players w).1.2
          (Room.broadcastLoop sessions type payload r.players w).2).2) := by
  rw [broadcastLeaves_eq, List.foldl_append]
  exact dropFailed_eq ..

omit [Field K] in
/-- The players who leave are those the message could not be sent to. -/
theorem mem_broadcastLeaves (hseparate : sessions.Separate) (h : r.Referring)
    (hkeys : (r.players.map (·.1)).Nodup) {w : ω} {entry : SessionId × Player K ρ}
    (hentry : entry ∈ r.players) : entry.1 ∈ Room.broadcastLeaves sessions type payload r w ↔
      sessions.outcome type payload w entry.2.session ≠ .sent := by
  -- no two players have one key, so whoever is removed under this key is this player
  have hsame : ∀ other ∈ r.players, other.1 = entry.1 → other = entry :=
    fun other hother hkey => List.inj_on_of_nodup_map hkeys hother hentry hkey
  have hexpired : entry.1 ∈ ((r.players.filter fun entry =>
      sessions.outcome type payload w entry.2.session = .expired).map (·.1)) ↔
        sessions.outcome type payload w entry.2.session = .expired := by
    rw [List.mem_map]
    constructor
    · rintro ⟨other, hother, hkey⟩
      obtain ⟨hmem, houtcome⟩ := List.mem_filter.mp hother
      rw [← hsame other hmem hkey]
      exact of_decide_eq_true houtcome
    · intro houtcome
      exact ⟨entry, List.mem_filter.mpr ⟨hentry, decide_eq_true houtcome⟩, rfl⟩
  have hfailed : (∃ session ∈ (r.players.filter fun entry =>
      sessions.outcome type payload w entry.2.session = .failed).filterMap (·.2.session),
        SessionObject.getId session = entry.1) ↔
        sessions.outcome type payload w entry.2.session = .failed := by
    constructor
    · rintro ⟨session, hsession, hid⟩
      obtain ⟨other, hother, hrefers⟩ := List.mem_filterMap.mp hsession
      obtain ⟨hmem, houtcome⟩ := List.mem_filter.mp hother
      obtain ⟨session', hsession', hid'⟩ := h other hmem
      cases hrefers.symm.trans hsession'
      rw [← hsame other hmem (hid'.symm.trans hid)]
      exact of_decide_eq_true houtcome
    · intro houtcome
      obtain ⟨session, hsession, hid⟩ := h entry hentry
      exact ⟨session, List.mem_filterMap.mpr ⟨entry, List.mem_filter.mpr
        ⟨hentry, decide_eq_true houtcome⟩, hsession⟩, hid⟩
  have hloop := broadcastLoop_outcomes type payload hseparate (h.distinct hkeys) w
  rw [broadcastLeaves_eq, hloop, List.mem_append, mem_failedLeaves hseparate, hexpired, hfailed]
  cases sessions.outcome type payload w entry.2.session <;> simp

/-- **The players who stay** are those the message was sent to. -/
theorem broadcast_players (hseparate : sessions.Separate) (h : r.Referring)
    (hkeys : (r.players.map (·.1)).Nodup) (w : ω) :
    (r.broadcast sessions type payload w).1.players =
      r.players.filter fun entry => sessions.outcome type payload w entry.2.session = .sent := by
  rw [broadcast_eq, Room.leaves_players]
  apply List.filter_congr
  intro entry hentry
  simp [mem_broadcastLeaves hseparate h hkeys hentry]

/-- **Whoever the message could not be sent to departs**, and nobody else. -/
theorem mem_broadcast_departures (hseparate : sessions.Separate) (h : r.Referring)
    (hkeys : (r.players.map (·.1)).Nodup) {w : ω} {sessionId : SessionId} :
    sessionId ∈ r.departures (Room.broadcastLeaves sessions type payload r w) ↔
      ∃ entry ∈ r.players, entry.1 = sessionId ∧
        sessions.outcome type payload w entry.2.session ≠ .sent := by
  rw [Room.mem_departures]
  constructor
  · rintro ⟨hleaves, entry, hentry, rfl⟩
    exact ⟨entry, hentry, rfl, (mem_broadcastLeaves hseparate h hkeys hentry).mp hleaves⟩
  · rintro ⟨entry, hentry, rfl, houtcome⟩
    exact ⟨(mem_broadcastLeaves hseparate h hkeys hentry).mpr houtcome, entry, hentry, rfl⟩

/-- **Everyone who has not expired is sent to once.** -/
theorem broadcast_recorded (hseparate : sessions.Separate) (h : r.Referring)
    (hkeys : (r.players.map (·.1)).Nodup) (w : ω)
    (attempts : List (ρ × MessageType × List UInt8)) :
    r.broadcast sessions.recorded type payload (w, attempts) =
      ((r.broadcast sessions type payload w).1, (r.broadcast sessions type payload w).2,
        attempts ++ ((r.players.filter fun entry =>
          sessions.outcome type payload w entry.2.session ≠ .expired).filterMap
            (·.2.session)).map (·, type, payload)) := by
  unfold Room.broadcast
  rw [broadcastLoop_recorded hseparate (h.distinct hkeys)]
  dsimp only
  rw [dropFailed_recorded]

end Broadcast

/-! ## What is reachable -/

section Reachable

variable [SessionObject ρ] {r r' : Room K ρ}

theorem Room.referring_iff : r.Referring ↔
    ∀ tag ∈ r.tags, ∃ session, tag.2.2.1 = some session ∧ SessionObject.getId session = tag.1 := by
  unfold Room.Referring Room.tags Room.seats
  rw [List.map_map, List.forall_mem_map]
  rfl

/-- Nobody changes its session. -/
theorem Room.Referring.progress (h : r.Referring) {id : Option PlayerId}
    (hprogress : r.Progress r' id) : r'.Referring := by
  rw [Room.referring_iff] at h ⊢
  cases hprogress with
  | kept htags _ => exact fun tag htag => h tag (htags.subset htag)
  | added session side _ _ htags _ =>
      intro tag htag
      rw [htags] at htag
      rcases List.mem_append.mp htag with hold | hnew
      · exact h tag hold
      · rw [List.mem_singleton.mp hnew]
        exact ⟨session, rfl, rfl⟩

variable [Field K] [LinearOrder K] [IsStrictOrderedRing K] [FloorRing K] [HasSqrt K]

theorem Room.Referring.run {t : Room K ρ × ω} (h : t.1.Referring) (sessions : Room.Sessions ρ ω)
    (events : List (RoomEvent K ρ ω)) : (Room.run sessions t events).1.Referring := by
  induction events generalizing t with
  | nil => exact h
  | cons event events ih => exact ih (h.progress (Room.progress_step sessions t event))

end Reachable

/-- A room without a game. -/
structure Room.Stopped [Field K] (r : Room K ρ) : Prop where
  gameState : r.gameState = .waiting
  flame : r.sideScores.flame = 0
  frost : r.sideScores.frost = 0
  gameRemainingSeconds : r.gameRemainingSeconds = 0
  attackRoleSwitchRemainingSeconds : r.attackRoleSwitchRemainingSeconds = 0

/-- **A room is stopped** exactly as long as it has fewer than two players. -/
theorem Room.Consistent.stopped_iff [Field K] [LinearOrder K] {r : Room K ρ} (h : r.Consistent) :
    r.Stopped ↔ r.players.length < 2 := by
  constructor
  · intro hstopped
    exact h.phase.waiting.mp hstopped.gameState
  · intro hfew
    have hwaiting := h.phase.waiting.mpr hfew
    obtain ⟨hflame, hfrost, -⟩ := h.phase.noScores hwaiting
    obtain ⟨-, htimer, hswitch⟩ := h.phase.idle (by rw [hwaiting]; decide)
    exact ⟨hwaiting, hflame, hfrost, htimer, hswitch⟩

/-! ## The sessions of the server -/

/-- The sessions of the server, as its room uses them. -/
def storedSessions : Room.Sessions SessionId (List (SessionId × SessionId) × SessionStore) :=
  Server.roomSessions storedObjects

section Stored

variable {w : SessionStore} {id id' : SessionId}

theorem SessionStore.modify_other (w : SessionStore) (f : Session → Session) (h : id' ≠ id) :
    (w.modify id f).sessions id' = w.sessions id' := by
  unfold SessionStore.modify
  split
  · rfl
  · exact Function.update_of_ne h ..

/-- Sending changes the queue and what is printed, of one session. -/
theorem storedObjects_send_frame (w : SessionStore) (id : SessionId) (type : MessageType)
    (payload : List UInt8) {session : Session} (hsession : w.sessions id' = some session) :
    ∃ session', (storedObjects.send id type payload w).2.sessions id' = some session' ∧
      session'.closed = session.closed ∧ session'.socketOpen = session.socketOpen := by
  by_cases hsame : id' = id
  · subst hsame
    refine ⟨(session.send type payload).2, ?_, session.send_closed .., session.send_socketOpen ..⟩
    simp only [storedObjects, SessionStore.modify, hsession]
    exact Function.update_self ..
  · exact ⟨session, (w.modify_other _ hsame).trans hsession, rfl, rfl⟩

theorem storedObjects_stop_other (w : SessionStore) (h : id' ≠ id) :
    (storedObjects.stop id w).2.sessions id' = w.sessions id' := by
  cases hsession : w.sessions id with
  | none => simp only [storedObjects, hsession]
  | some session =>
      simp only [storedObjects, hsession]
      exact Function.update_of_ne h ..

/-- A session that is stopped is closed. -/
theorem storedObjects_stop_self {session : Session} (hsession : w.sessions id = some session) :
    ∃ session', (storedObjects.stop id w).2.sessions id = some session' ∧
      session'.closed = true := by
  refine ⟨(session.stop closeNotes (false, w.closedLog)).1, ?_, Session.close_closed ..⟩
  simp only [storedObjects, hsession]
  exact Function.update_self ..

theorem storedSessions_separate : storedSessions.Separate where
  lock type payload t hother := by
    simp only [storedSessions, Server.roomSessions, storedObjects,
      SessionStore.modify_other _ _ hother]
  send type payload t hother := by
    simp only [storedSessions, Server.roomSessions, storedObjects,
      SessionStore.modify_other _ _ hother]
  stop session t sessionId hin := by
    simp only [storedSessions, Server.roomSessions] at hin
    split at hin
    · exact List.mem_singleton.mp hin
    · cases hin

/-- The sessions of the room are stopped as those of the store. -/
theorem storedSessions_stop_store (id : SessionId)
    (t : List (SessionId × SessionId) × SessionStore) :
    (storedSessions.stop id t).2.2 = (storedObjects.stop id t.2).2 := by
  simp only [storedSessions, Server.roomSessions]
  split <;> rfl

/-- An open session that is stopped calls back into the room. -/
theorem storedSessions_stop_open {t : List (SessionId × SessionId) × SessionStore}
    {session : Session}
    (hsession : t.2.sessions id = some session) (hopen : session.closed = false)
    (hsocket : session.socketOpen = true) :
    (storedSessions.stop id t).1 = [id] := by
  have hcalled : (storedObjects.stop id t.2).1 = true := by
    simp only [storedObjects, hsession, Session.stop]
    rw [Session.close_live (by rfl) hopen hsocket]
  simp only [storedSessions, Server.roomSessions, hcalled, if_true]
  rfl

/-- The first loop closes nothing. -/
theorem broadcastLoop_stored (players : List (SessionId × Player K SessionId)) (type : MessageType)
    (payload : List UInt8) {t : List (SessionId × SessionId) × SessionStore} {session : Session}
    (hsession : t.2.sessions id = some session) :
    ∃ session', (Room.broadcastLoop storedSessions type payload players
        t).2.2.sessions id = some session' ∧
      session'.closed = session.closed ∧ session'.socketOpen = session.socketOpen := by
  induction players generalizing t session with
  | nil => exact ⟨session, hsession, rfl, rfl⟩
  | cons entry players ih =>
      rcases expired_or_locked storedSessions entry.2.session t with
        hexpired | ⟨locked, hlocked, hlock⟩
      · rw [broadcastLoop_expired hexpired]
        exact ih hsession
      · rw [broadcastLoop_locked hlocked hlock]
        obtain ⟨sent, hsent, hclosed, hsocket⟩ :=
          storedObjects_send_frame t.2 locked type payload hsession
        obtain ⟨session', hsession', hclosed', hsocket'⟩ :=
          ih (t := (storedSessions.send locked type payload t).2) hsent
        exact ⟨session', hsession', hclosed'.trans hclosed, hsocket'.trans hsocket⟩

/-- What is closed stays closed. -/
theorem failedLeaves_stays_closed (failed : List SessionId)
    {t : List (SessionId × SessionId) × SessionStore}
    (h : ∃ session, t.2.sessions id = some session ∧ session.closed = true) :
    ∃ session, (Room.failedLeaves storedSessions failed t).2.2.sessions id =
      some session ∧ session.closed = true := by
  induction failed generalizing t with
  | nil => exact h
  | cons stopped failed ih =>
      rw [failedLeaves_cons]
      apply ih
      rw [storedSessions_stop_store]
      obtain ⟨session, hsession, hclosed⟩ := h
      by_cases hsame : id = stopped
      · subst hsame
        exact storedObjects_stop_self hsession
      · exact ⟨session, (storedObjects_stop_other t.2 hsame).trans hsession, hclosed⟩

/-- **The last loop** closes the sessions that failed. -/
theorem failedLeaves_closed {failed : List SessionId} (hfailed : id ∈ failed)
    {t : List (SessionId × SessionId) × SessionStore} {session : Session}
    (hsession : t.2.sessions id = some session) :
    ∃ session', (Room.failedLeaves storedSessions failed t).2.2.sessions id =
      some session' ∧ session'.closed = true := by
  induction failed generalizing t with
  | nil => cases hfailed
  | cons stopped failed ih =>
      rw [failedLeaves_cons]
      by_cases hsame : id = stopped
      · apply failedLeaves_stays_closed failed
        rw [storedSessions_stop_store, hsame]
        exact storedObjects_stop_self (hsame ▸ hsession)
      · apply ih ((List.mem_cons.mp hfailed).resolve_left hsame)
        rw [storedSessions_stop_store, storedObjects_stop_other t.2 hsame]
        exact hsession

/-- **The last loop** calls `Leave` twice for an open session: itself, and through the callback. -/
theorem failedLeaves_count {failed : List SessionId} (hdistinct : failed.Nodup)
    (hfailed : id ∈ failed) {t : List (SessionId × SessionId) × SessionStore} {session : Session}
    (hsession : t.2.sessions id = some session) (hopen : session.closed = false)
    (hsocket : session.socketOpen = true) :
    (Room.failedLeaves storedSessions failed t).1.count id = 2 := by
  induction failed generalizing t with
  | nil => cases hfailed
  | cons stopped failed ih =>
      obtain ⟨hnew, hrest⟩ := List.nodup_cons.mp hdistinct
      rw [failedLeaves_cons, List.count_append]
      by_cases hsame : id = stopped
      · subst hsame
        -- it leaves here, and again in the callback of `Stop`; later it does not come any more
        have hlater : id ∉ (Room.failedLeaves storedSessions failed
            (storedSessions.stop id t).2).1 := by
          rw [mem_failedLeaves storedSessions_separate]
          rintro ⟨other, hother, rfl⟩
          exact hnew hother
        rw [storedSessions_stop_open hsession hopen hsocket, List.count_eq_zero_of_not_mem hlater]
        simp [SessionObject.getId]
      · have hnone : id ∉ SessionObject.getId stopped ::
            (storedSessions.stop stopped t).1 := by
          intro hin
          rcases List.mem_cons.mp hin with hin | hin
          · exact hsame hin
          · exact hsame (storedSessions_separate.stop stopped t id hin)
        have hstays : (storedSessions.stop stopped t).2.2.sessions id =
            some session := by
          rw [storedSessions_stop_store, storedObjects_stop_other t.2 hsame, hsession]
        rw [List.count_eq_zero_of_not_mem hnone, Nat.zero_add]
        exact ih hrest ((List.mem_cons.mp hfailed).resolve_left hsame) hstays

end Stored

/-! ## The broadcasts of a room that can be reached -/

/-- What a broadcast of a room does, with the sessions of the server in any state. Sessions are
known by their ids, and so are their players. -/
structure BroadcastEffect [Field K] (r : Room K SessionId) (type : MessageType)
    (payload : List UInt8) (t : List (SessionId × SessionId) × SessionStore) : Prop where
  /-- Everyone who has not expired is sent this message once. -/
  attempts : r.broadcast storedSessions.recorded type payload (t, []) =
    ((r.broadcast storedSessions type payload t).1,
      (r.broadcast storedSessions type payload t).2,
      (r.players.filter fun entry => storedSessions.outcome type payload t
        entry.2.session ≠ .expired).map fun entry => (entry.1, type, payload))
  /-- Those it was sent to stay, as they were. -/
  players : (r.broadcast storedSessions type payload t).1.players =
    r.players.filter fun entry =>
      storedSessions.outcome type payload t entry.2.session = .sent
  /-- The session of anyone it could not be sent to is closed. -/
  closed : ∀ entry ∈ r.players,
    storedSessions.outcome type payload t entry.2.session = .failed →
      ∀ session, t.2.sessions entry.1 = some session →
        ∃ session', (r.broadcast storedSessions type payload
          t).2.2.sessions entry.1 = some session' ∧ session'.closed = true
  /-- The room is what is left of it by a number of calls of `Leave`. -/
  leaves : (r.broadcast storedSessions type payload t).1 =
    (Room.broadcastLeaves storedSessions type payload r t).foldl Room.leave r
  /-- Two of them are for an open session that fails, the second through its callback. -/
  reenters : ∀ entry ∈ r.players,
    storedSessions.outcome type payload t entry.2.session = .failed →
      ∀ session, t.2.sessions entry.1 = some session → session.closed = false →
        session.socketOpen = true →
          (Room.broadcastLeaves storedSessions type payload r t).count entry.1 = 2
  /-- One of them takes effect for everyone the message did not reach. -/
  once : (r.departures (Room.broadcastLeaves storedSessions type payload r t)).Nodup
  departures : ∀ sessionId,
    sessionId ∈ r.departures (Room.broadcastLeaves storedSessions type payload r t) ↔
      ∃ entry ∈ r.players, entry.1 = sessionId ∧
        storedSessions.outcome type payload t entry.2.session ≠ .sent
  stopped : (r.broadcast storedSessions type payload t).1.Stopped ↔
    (r.broadcast storedSessions type payload t).1.players.length < 2

section Effect

variable [Field K] {r : Room K SessionId} {type : MessageType} {payload : List UInt8}
  {t : List (SessionId × SessionId) × SessionStore}

omit [Field K] in
/-- Here a session is known by its id, which is the key of its player. -/
theorem Room.Referring.filterMap_session (h : r.Referring)
    (p : SessionId × Player K SessionId → Bool) :
    (r.players.filter p).filterMap (·.2.session) = (r.players.filter p).map (·.1) := by
  rw [← List.filterMap_eq_map]
  apply List.filterMap_congr
  intro entry hentry
  obtain ⟨session, hsession, hid⟩ := h entry (List.mem_of_mem_filter hentry)
  rw [hsession]
  exact congrArg some hid

variable [LinearOrder K]

/-- **A broadcast of a consistent room.** -/
theorem Room.Consistent.broadcastEffect (hr : r.Consistent) (h : r.Referring) (type : MessageType)
    (payload : List UInt8) (t : List (SessionId × SessionId) × SessionStore) :
    BroadcastEffect r type payload t := by
  have hkeys := hr.roster.keys
  have hloop := broadcastLoop_outcomes type payload storedSessions_separate (h.distinct hkeys) t
  rw [h.filterMap_session] at hloop
  -- the sessions that fail, each of them once
  have hdistinct : (Room.broadcastLoop storedSessions type payload r.players t).1.2.Nodup := by
    rw [hloop]
    exact hkeys.sublist (List.filter_sublist.map _)
  have hfailed : ∀ entry ∈ r.players,
      storedSessions.outcome type payload t entry.2.session = .failed →
        entry.1 ∈ (Room.broadcastLoop storedSessions type payload r.players t).1.2 := by
    intro entry hentry houtcome
    rw [hloop]
    exact List.mem_map_of_mem (List.mem_filter.mpr ⟨hentry, decide_eq_true houtcome⟩)
  refine ⟨?_, broadcast_players storedSessions_separate h hkeys t, ?_, ?_, ?_,
    r.departures_nodup _, fun _ => mem_broadcast_departures storedSessions_separate h hkeys, ?_⟩
  · rw [broadcast_recorded storedSessions_separate h hkeys, List.nil_append, h.filterMap_session,
      List.map_map]
    rfl
  · intro entry hentry houtcome session hsession
    obtain ⟨session', hsession', -⟩ := broadcastLoop_stored r.players type payload hsession
    rw [broadcast_eq]
    exact failedLeaves_closed (hfailed entry hentry houtcome) hsession'
  · rw [broadcast_eq]
  · intro entry hentry houtcome session hsession hopen hsocket
    obtain ⟨session', hsession', hclosed', hsocket'⟩ :=
      broadcastLoop_stored r.players type payload hsession
    -- the first loop removes the expired ones only, so both calls are of the last loop
    have hnotExpired :
        entry.1 ∉ (Room.broadcastLoop storedSessions type payload r.players t).1.1 := by
      rw [hloop]
      intro hin
      obtain ⟨other, hother, hkey⟩ := List.mem_map.mp hin
      obtain ⟨hmem, hexpired⟩ := List.mem_filter.mp hother
      rw [List.inj_on_of_nodup_map hkeys hmem hentry hkey, houtcome] at hexpired
      cases hexpired
    rw [broadcastLeaves_eq, List.count_append, List.count_eq_zero_of_not_mem hnotExpired,
      Nat.zero_add]
    exact failedLeaves_count hdistinct (hfailed entry hentry houtcome) hsession'
      (hclosed'.trans hopen) (hsocket'.trans hsocket)
  · apply Room.Consistent.stopped_iff
    exact Room.broadcast_induction (fun _ id h => h.leave id) _ type payload t hr

end Effect

section Runs

variable [Field K] [LinearOrder K] [IsStrictOrderedRing K] [FloorRing K] [HasSqrt K]

/-- **Broadcast reaches every live player once and removes exactly the others**, in every room that
can be reached, whatever state the sessions are in. -/
theorem broadcast_reaches_live_players (sessions : Room.Sessions SessionId ω) (id : RoomId) (w : ω)
    (events : List (RoomEvent K SessionId ω)) (type : MessageType) (payload : List UInt8)
    (t : List (SessionId × SessionId) × SessionStore) :
    BroadcastEffect (Room.run sessions (Room.create id, w) events).1 type payload t :=
  Room.Consistent.broadcastEffect ((Room.consistent_create id).run sessions events)
    (Room.Referring.run (t := (Room.create id, w)) nofun sessions events) type payload t

/-- An open session, and one whose socket is not open any more. -/
def brokenSessions : List (SessionId × SessionId) × SessionStore :=
  ([(5, 5), (6, 6)], { sessions := fun id =>
    if id = 5 then some { id := 5 }
    else if id = 6 then some { id := 6, socketOpen := false }
    else none })

theorem broadcast_reaches_live_players_broken :
    storedSessions.outcome .worldStateSnapshot [] brokenSessions (some 5) = .sent ∧
      storedSessions.outcome .worldStateSnapshot [] brokenSessions (some 6) = .failed ∧
      storedSessions.outcome .worldStateSnapshot [] brokenSessions (some 7) = .expired ∧
      BroadcastEffect (Room.run liveSessions ((Room.create 1 : Room ℚ SessionId), ())
        [.enter (some 5), .enter (some 6)]).1 .worldStateSnapshot [] brokenSessions :=
  ⟨by decide +kernel, by decide +kernel, by decide +kernel,
    broadcast_reaches_live_players liveSessions 1 () _ .worldStateSnapshot [] brokenSessions⟩

end Runs

end NetworkArena.Server
