/-
# NetworkArena.Server.Registry -- who is connected, in three places

Whether a session is alive is written down three times: in the session itself (`closed_`), in the
registry of the server and in the players of the room. All three change when a session closes, which
happens in many places: the room is full, a message cannot be queued, a read or a write fails, a
message makes no sense, a broadcast does not go through, the server stops.

Here the server runs with all its sessions (`ServerRun`). `Linked` says that the three places agree,
up to the one session that a handler is just busy with; closing this session is what makes them
agree again (`Linked.close`). The handlers of a session keep it by the rules for their elementary
updates, and the operations of the server because each of them closes the sessions it gives up.
-/
import NetworkArena.Server.Requests
import NetworkArena.Server.Seats
import NetworkArena.Server.SessionRuns

set_option linter.dupNamespace false

namespace NetworkArena.Server

open NetworkArena.Foundation
open NetworkArena.Shared

variable {K : Type}

/-! ## All session objects -/

/-- The session objects by their ids, and the calls of `onClosed_`. -/
structure SessionStore where
  sessions : SessionId → Option Session := fun _ => none
  closedLog : List SessionId := []

namespace SessionStore

def put (w : SessionStore) (id : SessionId) (session : Session) : SessionStore :=
  { w with sessions := Function.update w.sessions id (some session) }

/-- Change a session, if there is one. -/
def modify (w : SessionStore) (id : SessionId) (f : Session → Session) : SessionStore :=
  match w.sessions id with
  | none => w
  | some session => w.put id (f session)

/-- A session that is not closed. -/
def Live (w : SessionStore) (id : SessionId) : Prop :=
  ∃ session, w.sessions id = some session ∧ session.closed = false

end SessionStore

/-- Notes whether `onClosed_` was called, and for whom. -/
def closeNotes : SessionCallbacks (Bool × List SessionId) where
  onClosed := some fun id t => (true, t.2 ++ [id])
  onPlayerInput := none

/-- The session objects of the store, as the server uses them. -/
def storedObjects : SessionObjects SessionId SessionStore where
  isHeld id w := (w.sessions id).any fun session =>
    session.readsOutstanding ≠ 0 || !session.writesOutstanding.isEmpty
  create id w := (id, w.put id { id })
  destroy id w := w.modify id fun session => { session with closed := true, socketOpen := false }
  start id w := w.modify id Session.start
  send id type payload w :=
    ((w.sessions id).any fun session => (session.send type payload).1,
      w.modify id fun session => (session.send type payload).2)
  stop id w :=
    match w.sessions id with
    | none => (false, w)
    | some session =>
      let (session, called, closedLog) := session.stop closeNotes (false, w.closedLog)
      (called, { w.put id session with closedLog })

/-! ## Runs of the server -/

structure ServerRun (K : Type) where
  server : Server K SessionId
  objects : SessionStore

/-- The handlers of the server and of its sessions. -/
inductive ServerEvent (K : Type) where
  | accept
  | read (id : SessionId) (received : List UInt8) (error : Option ErrorCode)
  /-- The `i`-th outstanding write of a session completes. -/
  | written (id : SessionId) (i : ℕ) (error : Option ErrorCode) (bytesTransferred : ℕ)
  | tick (deltaSeconds : K)
  | broadcast (type : MessageType) (payload : List UInt8)
  | stop

namespace ServerEvent

def isAccept : ServerEvent K → Bool
  | .accept => true
  | _ => false

def isStop : ServerEvent K → Bool
  | .stop => true
  | _ => false

end ServerEvent

/-- How many sessions get an id: those accepted before the server stops. -/
def sessionsAccepted (events : List (ServerEvent K)) : ℕ :=
  (events.takeWhile fun event => !event.isStop).countP fun event => event.isAccept

theorem sessionsAccepted_cons (event : ServerEvent K) (events : List (ServerEvent K)) :
    sessionsAccepted (event :: events) =
      if event.isStop then 0 else (if event.isAccept then 1 else 0) + sessionsAccepted events := by
  unfold sessionsAccepted
  rw [List.takeWhile_cons]
  cases event.isStop with
  | true => rfl
  | false =>
      rw [if_pos (by rfl), List.countP_cons, Nat.add_comm]
      rfl

namespace ServerRun

variable [Field K] [LinearOrder K] [HasSqrt K]

def initial : ServerRun K := ⟨Server.create, {}⟩

/-- What the sessions are constructed with, next to the log of their closing. -/
def callbacks : SessionCallbacks (Server K SessionId × List SessionId) where
  onClosed := some fun id t => (t.1.handleSessionClosed id, t.2 ++ [id])
  onPlayerInput := some fun id input t => (t.1.handlePlayerInput id input, t.2)

/-- A handler of one session, which acts on the server through the callbacks. -/
def handleSession (t : ServerRun K) (id : SessionId)
    (handler : Server K SessionId × List SessionId →
      Session × Server K SessionId × List SessionId) : ServerRun K :=
  let (session, server, closedLog) := handler (t.server, t.objects.closedLog)
  ⟨server, { t.objects.put id session with closedLog }⟩

variable [IsStrictOrderedRing K] [FloorRing K]

/-- One handler. A handler of a session runs only if asio owes it to the session. -/
def step (toFloat : K → FloatBits) (t : ServerRun K) : ServerEvent K → Option (ServerRun K)
  | .accept =>
    let (server, objects) := t.server.handleAccept storedObjects t.objects
    some ⟨server, objects⟩
  | .read id received error =>
    match t.objects.sessions id with
    | none => none
    | some session =>
      if session.readsOutstanding = 0 ∨ Session.receiveBufferSize < received.length then none
      else some (t.handleSession id (session.retireRead.handleRead callbacks error received))
  | .written id i error bytesTransferred =>
    match t.objects.sessions id with
    | none => none
    | some session =>
      if session.writesOutstanding[i]?.isNone then none
      else
        some (t.handleSession id
          ((session.retireWrite i).handleWrite callbacks error bytesTransferred))
  | .tick deltaSeconds =>
    let (server, objects) := t.server.handleTick storedObjects toFloat deltaSeconds t.objects
    some ⟨server, objects⟩
  | .broadcast type payload =>
    let (room, sessions, objects) := t.server.room.broadcast (Server.roomSessions storedObjects)
      type payload (t.server.sessions, t.objects)
    some ⟨{ t.server with room, sessions }, objects⟩
  | .stop =>
    let (server, objects) := t.server.stop storedObjects t.objects
    some ⟨server, objects⟩

end ServerRun

/-! ## The three places -/

/-- The keys of the players of a room, with the sessions they refer to. -/
def Room.links {ρ : Type} (r : Room K ρ) : List (SessionId × Option ρ) :=
  r.seats.map fun seat => (seat.key, seat.session)

/-- How often a session should have been reported closed. -/
def closingsOf : Option Session → ℕ
  | none => 0
  | some session => if session.closed then 1 else 0

/-- The registry, the room and the sessions agree, but for the session that a handler is busy with.
No session has an id above `n`, and a session was reported closed once if it is closed. -/
structure Linked (n : ℕ) (busy : Option SessionId) (registry : List (SessionId × SessionId))
    (links : List (SessionId × Option SessionId)) (w : SessionStore) : Prop where
  registered : ∀ id, some id ≠ busy → ((∃ entry ∈ registry, entry.1 = id) ↔ w.Live id)
  seated : ∀ id, some id ≠ busy → ((∃ link ∈ links, link.1 = id) ↔ w.Live id)
  entries : ∀ entry ∈ registry, entry.2 = entry.1
  references : ∀ link ∈ links, link.2 = some link.1
  objects : ∀ id session, w.sessions id = some session →
    session.id = id ∧ session.SocketLive ∧ id.toNat ≤ n
  closings : ∀ id, w.closedLog.count id = closingsOf (w.sessions id)

section Linked

variable {n : ℕ} {busy : Option SessionId} {registry : List (SessionId × SessionId)}
  {links : List (SessionId × Option SessionId)} {w w' : SessionStore} {id : SessionId}
  {session session' : Session}

/-- The keys that are left when a key is removed. -/
theorem exists_key_filter {β : Type} {entries : List (SessionId × β)} {id' : SessionId} :
    (∃ entry ∈ entries.filter fun entry => entry.1 ≠ id, entry.1 = id') ↔
      id' ≠ id ∧ ∃ entry ∈ entries, entry.1 = id' := by
  constructor
  · rintro ⟨entry, hentry, rfl⟩
    obtain ⟨hmem, hne⟩ := List.mem_filter.mp hentry
    exact ⟨of_decide_eq_true hne, entry, hmem, rfl⟩
  · rintro ⟨hne, entry, hmem, rfl⟩
    exact ⟨entry, List.mem_filter.mpr ⟨hmem, decide_eq_true hne⟩, rfl⟩

theorem Linked.free (h : Linked n none registry links w) (id : SessionId) :
    Linked n (some id) registry links w where
  registered id' _ := h.registered id' nofun
  seated id' _ := h.seated id' nofun
  entries := h.entries
  references := h.references
  objects := h.objects
  closings := h.closings

/-- The session a handler was busy with is where it should be. -/
theorem Linked.settle (h : Linked n (some id) registry links w)
    (hregistered : (∃ entry ∈ registry, entry.1 = id) ↔ w.Live id)
    (hseated : (∃ link ∈ links, link.1 = id) ↔ w.Live id) : Linked n none registry links w where
  registered id' _ := by
    by_cases hsame : id' = id
    · rw [hsame]
      exact hregistered
    · exact h.registered id' (fun heq => hsame (Option.some.inj heq))
  seated id' _ := by
    by_cases hsame : id' = id
    · rw [hsame]
      exact hseated
    · exact h.seated id' (fun heq => hsame (Option.some.inj heq))
  entries := h.entries
  references := h.references
  objects := h.objects
  closings := h.closings

/-- The player of the session a handler is busy with may leave. -/
theorem Linked.leave (h : Linked n (some id) registry links w) :
    Linked n (some id) registry (links.filter fun link => link.1 ≠ id) w where
  registered := h.registered
  seated id' hother := by
    rw [← h.seated id' hother, exists_key_filter]
    exact and_iff_right fun heq => hother (congrArg some heq)
  entries := h.entries
  references link hlink := h.references link (List.mem_of_mem_filter hlink)
  objects := h.objects
  closings := h.closings

/-- What a session has queued, received or printed does not matter. -/
theorem Linked.replace (h : Linked n busy registry links w)
    (hsession : w.sessions id = some session)
    (hsession' : w'.sessions id = some session')
    (hothers : ∀ id', id' ≠ id → w'.sessions id' = w.sessions id')
    (hlog : w'.closedLog = w.closedLog) (hid : session'.id = session.id)
    (hclosed : session'.closed = session.closed)
    (hsocket : session'.socketOpen = session.socketOpen) : Linked n busy registry links w' := by
  have hlive : ∀ id', w'.Live id' ↔ w.Live id' := by
    intro id'
    unfold SessionStore.Live
    by_cases hsame : id' = id
    · rw [hsame, hsession, hsession']
      simp [hclosed]
    · rw [hothers id' hsame]
  refine ⟨?_, ?_, h.entries, h.references, ?_, ?_⟩
  · intro id' hother
    exact (h.registered id' hother).trans (hlive id').symm
  · intro id' hother
    exact (h.seated id' hother).trans (hlive id').symm
  · intro id' session₀ hsession₀
    by_cases hsame : id' = id
    · subst hsame
      obtain rfl : session' = session₀ := Option.some.inj (hsession'.symm.trans hsession₀)
      obtain ⟨hold, hopen, hbelow⟩ := h.objects id' session hsession
      refine ⟨hid.trans hold, fun hstill => ?_, hbelow⟩
      rw [hsocket]
      exact hopen (hclosed ▸ hstill)
    · exact h.objects id' session₀ ((hothers id' hsame).symm.trans hsession₀)
  · intro id'
    rw [hlog, h.closings id']
    by_cases hsame : id' = id
    · rw [hsame, hsession, hsession', closingsOf, closingsOf, hclosed]
    · rw [hothers id' hsame]

/-- **A session closes.** It leaves the registry and the room, and is reported. -/
theorem Linked.close (h : Linked n (some id) registry links w)
    (hsession : w.sessions id = some session) (hlive : session.closed = false)
    (hsession' : w'.sessions id = some session')
    (hothers : ∀ id', id' ≠ id → w'.sessions id' = w.sessions id')
    (hlog : w'.closedLog = w.closedLog ++ [id]) (hid : session'.id = session.id)
    (hclosed : session'.closed = true) :
    Linked n none (registry.filter fun entry => entry.1 ≠ id)
      (links.filter fun link => link.1 ≠ id) w' := by
  have hstill : ∀ id', id' ≠ id → (w'.Live id' ↔ w.Live id') := by
    intro id' hother
    unfold SessionStore.Live
    rw [hothers id' hother]
  have hgone : ¬ w'.Live id := by
    rintro ⟨session₀, hsession₀, hopen⟩
    obtain rfl : session' = session₀ := Option.some.inj (hsession'.symm.trans hsession₀)
    rw [hclosed] at hopen
    cases hopen
  have hleft : ∀ {β : Type} {entries : List (SessionId × β)} {id' : SessionId},
      (id' ≠ id → ((∃ entry ∈ entries, entry.1 = id') ↔ w.Live id')) →
        ((∃ entry ∈ entries.filter fun entry => entry.1 ≠ id, entry.1 = id') ↔ w'.Live id') := by
    intro β entries id' hkeys
    rw [exists_key_filter]
    by_cases hsame : id' = id
    · rw [hsame]
      exact iff_of_false (fun hkey => hkey.1 rfl) hgone
    · rw [hstill id' hsame, ← hkeys hsame]
      exact and_iff_right hsame
  refine ⟨?_, ?_, ?_, ?_, ?_, ?_⟩
  · intro id' _
    exact hleft fun hsame => h.registered id' fun heq => hsame (Option.some.inj heq)
  · intro id' _
    exact hleft fun hsame => h.seated id' fun heq => hsame (Option.some.inj heq)
  · intro entry hentry
    exact h.entries entry (List.mem_of_mem_filter hentry)
  · intro link hlink
    exact h.references link (List.mem_of_mem_filter hlink)
  · intro id' session₀ hsession₀
    by_cases hsame : id' = id
    · subst hsame
      obtain rfl : session' = session₀ := Option.some.inj (hsession'.symm.trans hsession₀)
      obtain ⟨hold, -, hbelow⟩ := h.objects id' session hsession
      refine ⟨hid.trans hold, fun hopen => ?_, hbelow⟩
      rw [hclosed] at hopen
      cases hopen
    · exact h.objects id' session₀ ((hothers id' hsame).symm.trans hsession₀)
  · intro id'
    rw [hlog, List.count_append, h.closings id']
    by_cases hsame : id' = id
    · rw [hsame, hsession, hsession']
      simp [closingsOf, hlive, hclosed]
    · have hnone : id' ∉ [id] := by simpa using hsame
      rw [hothers id' hsame, List.count_eq_zero_of_not_mem hnone, Nat.add_zero]

end Linked

/-! ## What the room does to its links -/

section Links

variable {ρ : Type} [Field K] (r : Room K ρ)

theorem Room.leave_links (id : SessionId) :
    (r.leave id).links = r.links.filter fun link => link.1 ≠ id := by
  rw [Room.links, (r.leave_frame id).1, Room.links, List.filter_map]
  rfl

theorem Room.applyPlayerInput_links [LinearOrder K] [HasSqrt K] (id : SessionId)
    (input : PlayerInputPayload) : (r.applyPlayerInput id input).2.links = r.links := by
  rw [Room.links, (r.applyPlayerInput_frame id input).1, List.map_map]
  apply List.map_congr_left
  intro seat _
  rw [Function.comp_apply]
  split <;> rfl

theorem Room.tick_links [LinearOrder K] [IsStrictOrderedRing K] [FloorRing K] [HasSqrt K]
    (deltaSeconds : K) : (r.tick deltaSeconds).links = r.links := by
  rw [Room.links, (r.tick_frame deltaSeconds).1]
  rfl

theorem Room.Entered.links [SessionObject ρ] {r r' : Room K ρ} {session : ρ}
    (h : r.Entered session r') :
    r'.links = r.links ++ [(SessionObject.getId session, some session)] := by
  unfold Room.links
  rcases h.seats with ⟨-, hseats⟩ | ⟨-, -, hseats⟩
  · rw [hseats, List.map_append]
    rfl
  · rw [hseats, List.map_append, List.map_map]
    rfl

end Links

/-! ## Stopping a session -/

/-- What handlers leave as it is: nothing is registered, and the server goes on as it did. -/
structure Server.Follows (s s' : Server K SessionId) : Prop where
  sessions : s'.sessions ⊆ s.sessions
  stopped : s'.stopped = s.stopped
  nextSessionId : s'.nextSessionId = s.nextSessionId

theorem Server.Follows.refl (s : Server K SessionId) : s.Follows s :=
  ⟨List.Subset.refl _, rfl, rfl⟩

theorem Server.Follows.trans {s s' s'' : Server K SessionId} (h : s.Follows s')
    (h' : s'.Follows s'') : s.Follows s'' :=
  ⟨List.Subset.trans h'.sessions h.sessions, h'.stopped.trans h.stopped,
    h'.nextSessionId.trans h.nextSessionId⟩

/-- Closing a live session calls `onClosed_`. -/
theorem Session.close_live {σ : Type} {callbacks : SessionCallbacks σ} {s : Session} {w : σ}
    {onClosed : SessionId → σ → σ} (honClosed : callbacks.onClosed = some onClosed)
    (hlive : s.closed = false) (hsocket : s.socketOpen = true) :
    s.close callbacks w =
      ({ s with closed := true, pendingSendBytes := 0, socketOpen := false }, onClosed s.id w) := by
  unfold Session.close
  rw [if_neg (by simp [hlive]), if_neg (by simp [hsocket]), honClosed]

section Stopping

variable [Field K] [LinearOrder K] {n : ℕ} {w w' : SessionStore} {id : SessionId}
  {s s' : Server K SessionId}

omit [LinearOrder K] in
theorem handleSessionClosed_follows (s : Server K SessionId) (id : SessionId) :
    s.Follows (s.handleSessionClosed id) :=
  ⟨List.filter_subset_self _, rfl, rfl⟩

omit [LinearOrder K] in
/-- **The callback of a closed session** takes it out of the registry and of the room. -/
theorem Linked.handleSessionClosed {session session' : Session}
    (h : Linked n (some id) s.sessions s.room.links w) (hsession : w.sessions id = some session)
    (hlive : session.closed = false) (hsession' : w'.sessions id = some session')
    (hothers : ∀ id', id' ≠ id → w'.sessions id' = w.sessions id')
    (hlog : w'.closedLog = w.closedLog ++ [id]) (hid : session'.id = session.id)
    (hclosed : session'.closed = true) :
    Linked n none (s.handleSessionClosed id).sessions (s.handleSessionClosed id).room.links w' := by
  have hlinks : (s.handleSessionClosed id).room.links =
      s.room.links.filter fun link => link.1 ≠ id := s.room.leave_links id
  rw [hlinks]
  exact h.close hsession hlive hsession' hothers hlog hid hclosed

/-- What `Stop` does to a live session. -/
theorem storedObjects_stop_live {session : Session} (hsession : w.sessions id = some session)
    (hid : session.id = id) (hlive : session.closed = false) (hsocket : session.socketOpen = true) :
    storedObjects.stop id w =
      (true, { w.put id { session with
        closed := true, pendingSendBytes := 0, socketOpen := false } with
          closedLog := w.closedLog ++ [id] }) := by
  simp only [storedObjects, hsession, Session.stop]
  rw [Session.close_live (by rfl) hlive hsocket, hid]

/-- Stopping anything else does nothing. -/
theorem storedObjects_stop_idle (hnot : ¬ w.Live id) : storedObjects.stop id w = (false, w) := by
  cases hsession : w.sessions id with
  | none => simp only [storedObjects, hsession]
  | some session =>
      have hclosed : session.closed = true := by
        by_contra hopen
        exact hnot ⟨session, hsession, by simpa using hopen⟩
      have hsame : Function.update w.sessions id (some session) = w.sessions := by
        rw [← hsession, Function.update_eq_self]
      simp only [storedObjects, hsession, Session.stop, Session.close, if_pos hclosed,
        SessionStore.put, hsame]

omit [LinearOrder K] in
/-- **The server gives a session up**, wherever it got to with it. -/
theorem Linked.stopSession (h : Linked n (some id) s.sessions s.room.links w) (hlive : w.Live id) :
    Linked n none (s.stopSession storedObjects id w).1.sessions
        (s.stopSession storedObjects id w).1.room.links (s.stopSession storedObjects id w).2 ∧
      s.Follows (s.stopSession storedObjects id w).1 ∧
      ¬ (s.stopSession storedObjects id w).2.Live id := by
  obtain ⟨session, hsession, hopen⟩ := hlive
  obtain ⟨hid, hsocket, -⟩ := h.objects id session hsession
  unfold Server.stopSession
  rw [storedObjects_stop_live hsession hid hopen (hsocket hopen)]
  refine ⟨?_, handleSessionClosed_follows s id, ?_⟩
  · exact h.handleSessionClosed hsession hopen (Function.update_self ..)
      (fun id' hother => Function.update_of_ne hother ..) rfl rfl rfl
  · rintro ⟨session', hsession', hopen'⟩
    cases (Function.update_self ..).symm.trans hsession'
    cases hopen'

omit [LinearOrder K] in
theorem stopSession_idle (hnot : ¬ w.Live id) :
    s.stopSession storedObjects id w = (s, w) := by
  unfold Server.stopSession
  rw [storedObjects_stop_idle hnot]
  rfl

end Stopping

/-! ## The handlers of a session -/

section Handlers

variable [Field K] [LinearOrder K] {n : ℕ} {id : SessionId} {w : SessionStore}
  {s : Server K SessionId} {session session' : Session} {t : Server K SessionId × List SessionId}

/-- A handler of a session at work, next to a server and the log. -/
structure Handling (n : ℕ) (id : SessionId) (w : SessionStore) (s : Server K SessionId)
    (session : Session) (t : Server K SessionId × List SessionId) : Prop where
  linked : Linked n none t.1.sessions t.1.room.links { w.put id session with closedLog := t.2 }
  follows : s.Follows t.1

omit [Field K] [LinearOrder K] in
theorem Handling.same (h : Handling n id w s session t) (hid : session'.id = session.id)
    (hclosed : session'.closed = session.closed)
    (hsocket : session'.socketOpen = session.socketOpen) : Handling n id w s session' t where
  linked := h.linked.replace (Function.update_self ..) (Function.update_self ..)
    (fun id' hother => by simp [SessionStore.put, Function.update_of_ne hother]) rfl hid hclosed
    hsocket
  follows := h.follows

variable [HasSqrt K]

theorem Handling.close (h : Handling n id w s session t) :
    Handling n id w s (session.close ServerRun.callbacks t).1
      (session.close ServerRun.callbacks t).2 := by
  cases hclosed : session.closed with
  | true =>
      unfold Session.close
      rw [if_pos hclosed]
      exact h
  | false =>
      obtain ⟨hid, hsocket, -⟩ := h.linked.objects id session (Function.update_self ..)
      rw [Session.close_live (by rfl) hclosed (hsocket hclosed), hid]
      refine ⟨?_, h.follows.trans (handleSessionClosed_follows t.1 id)⟩
      exact (h.linked.free id).handleSessionClosed (Function.update_self ..) hclosed
        (Function.update_self ..)
        (fun id' hother => by simp [SessionStore.put, Function.update_of_ne hother]) rfl hid.symm
        rfl

theorem handling_keeps : Session.Keeps ServerRun.callbacks (Handling n id w s) where
  report _ _ h := h.same rfl rfl rfl
  queues _ _ _ _ _ h := h.same rfl rfl rfl
  close h := h.close

theorem handling_updates : Session.WorldUpdates ServerRun.callbacks (Handling n id w s) where
  report _ h := h.same rfl rfl rfl
  record _ h := h.same rfl rfl rfl
  buffer _ h := h.same rfl rfl rfl
  send {session t} type payload h := by
    rcases Session.send_cases session type payload with ⟨-, hsend⟩ | ⟨-, diagnostics, hsend⟩
    · rw [hsend]
      exact h.same rfl rfl rfl
    · rw [hsend]
      exact h.same rfl rfl rfl
  close h := h.close
  playerInput {session t} onPlayerInput input honPlayerInput h := by
    cases honPlayerInput
    have hlinks : (t.1.handlePlayerInput session.id input).room.links = t.1.room.links :=
      t.1.room.applyPlayerInput_links session.id input
    refine ⟨?_, h.follows.trans ⟨List.Subset.refl _, rfl, rfl⟩⟩
    have hlinked := h.linked
    rw [← hlinks] at hlinked
    exact hlinked

omit [Field K] [LinearOrder K] [HasSqrt K] in
/-- What the handler of a session leaves behind. -/
theorem Linked.handleSession {t : ServerRun K}
    (h : Linked n none t.server.sessions t.server.room.links t.objects)
    (hsession : t.objects.sessions id = some session)
    (handler : Session → Server K SessionId × List SessionId →
      Session × Server K SessionId × List SessionId)
    (hid : session'.id = session.id) (hclosed : session'.closed = session.closed)
    (hsocket : session'.socketOpen = session.socketOpen)
    (hhandler : ∀ {session t'}, Handling n id t.objects t.server session t' →
      Handling n id t.objects t.server (handler session t').1 (handler session t').2) :
    Linked n none (t.handleSession id (handler session')).server.sessions
        (t.handleSession id (handler session')).server.room.links
        (t.handleSession id (handler session')).objects ∧
      t.server.Follows (t.handleSession id (handler session')).server := by
  have hstart : Handling n id t.objects t.server session' (t.server, t.objects.closedLog) :=
    ⟨h.replace hsession (Function.update_self ..)
      (fun id' hother => Function.update_of_ne hother ..)
      rfl hid hclosed hsocket, .refl _⟩
  obtain ⟨hlinked, hfollows⟩ := hhandler hstart
  exact ⟨hlinked, hfollows⟩

end Handlers

/-! ## Broadcasting -/

section Broadcast

variable {n : ℕ} {busy : Option SessionId} {registry : List (SessionId × SessionId)}
  {links : List (SessionId × Option SessionId)} {w : SessionStore} {id : SessionId}

theorem Linked.modify (h : Linked n busy registry links w) (id : SessionId) {f : Session → Session}
    (hid : ∀ session, (f session).id = session.id)
    (hclosed : ∀ session, (f session).closed = session.closed)
    (hsocket : ∀ session, (f session).socketOpen = session.socketOpen) :
    Linked n busy registry links (w.modify id f) := by
  unfold SessionStore.modify
  cases hsession : w.sessions id with
  | none => exact h
  | some session =>
      exact h.replace hsession (Function.update_self ..)
        (fun id' hother => Function.update_of_ne hother ..) rfl (hid session) (hclosed session)
        (hsocket session)

theorem Linked.send (h : Linked n busy registry links w) (id : SessionId) (type : MessageType)
    (payload : List UInt8) :
    Linked n busy registry links (storedObjects.send id type payload w).2 := by
  refine h.modify id (fun session => Session.send_id ..) (fun session => Session.send_closed ..) ?_
  intro session
  rcases Session.send_cases session type payload with ⟨-, hsend⟩ | ⟨-, diagnostics, hsend⟩
  · rw [hsend]
    rfl
  · rw [hsend]

/-- **Players whose sessions are registered have not expired**, and sending to them changes nobody's
place. -/
theorem broadcastLoop_linked {players : List (SessionId × Player K SessionId)}
    (hplayers : ∀ entry ∈ players, ∃ session, entry.2.session = some session ∧
      ∃ registered ∈ registry, registered.2 = session)
    (type : MessageType) (payload : List UInt8) (w : SessionStore) :
    (Room.broadcastLoop (Server.roomSessions storedObjects) type payload players
        (registry, w)).1.1 = [] ∧
      (Room.broadcastLoop (Server.roomSessions storedObjects) type payload players
        (registry, w)).2.1 = registry ∧
      ∀ {n links}, Linked n none registry links w →
        Linked n none registry links (Room.broadcastLoop (Server.roomSessions storedObjects) type
          payload players (registry, w)).2.2 := by
  induction players generalizing w with
  | nil => exact ⟨rfl, rfl, fun h => h⟩
  | cons entry players ih =>
      obtain ⟨session, hsession, registered, hmem, hsame⟩ := hplayers entry List.mem_cons_self
      have hlock : (Server.roomSessions storedObjects).lock session (registry, w) = true := by
        have hany : (registry.any fun entry => entry.2 = session) = true :=
          List.any_eq_true.mpr ⟨registered, hmem, decide_eq_true hsame⟩
        simp only [Server.roomSessions, hany, Bool.true_or]
      have hgood : entry.2.session.filter
          ((Server.roomSessions storedObjects).lock · (registry, w)) = some session := by
        rw [hsession, Option.filter_some, if_pos hlock]
      obtain ⟨hexpired, hregistry, hlinked⟩ := ih
        (fun entry' hentry' => hplayers entry' (List.mem_cons_of_mem _ hentry'))
        (storedObjects.send session type payload w).2
      unfold Room.broadcastLoop
      rw [hgood]
      exact ⟨hexpired, hregistry, fun h => hlinked (h.send session type payload)⟩

variable [Field K] [LinearOrder K] {room : Room K SessionId}

omit [LinearOrder K] in
/-- **Sessions that failed** are given up one by one. -/
theorem Linked.dropFailed (h : Linked n none registry room.links w) (failed : List SessionId) :
    Linked n none
        (Room.dropFailed (Server.roomSessions storedObjects) failed room (registry, w)).2.1
        (Room.dropFailed (Server.roomSessions storedObjects) failed room (registry, w)).1.links
        (Room.dropFailed (Server.roomSessions storedObjects) failed room (registry, w)).2.2 ∧
      (Room.dropFailed (Server.roomSessions storedObjects) failed room (registry, w)).2.1 ⊆
        registry := by
  induction failed generalizing registry room w with
  | nil => exact ⟨h, List.Subset.refl _⟩
  | cons id failed ih =>
      unfold Room.dropFailed
      by_cases hlive : w.Live id
      · -- the player leaves, and leaves again when the session reports that it has closed
        obtain ⟨session, hsession, hopen⟩ := hlive
        obtain ⟨hid, hsocket, -⟩ := h.objects id session hsession
        have hstop := storedObjects_stop_live hsession hid hopen (hsocket hopen)
        have hleft : Linked n (some id) registry (room.leave id).links w := by
          rw [room.leave_links]
          exact (h.free id).leave
        have hclosed : Linked n none (registry.filter fun entry => entry.1 ≠ id)
            ((room.leave id).leave id).links (storedObjects.stop id w).2 := by
          rw [(room.leave id).leave_links, hstop]
          exact hleft.close hsession hopen (Function.update_self ..)
            (fun id' hother => Function.update_of_ne hother ..) rfl rfl rfl
        simp only [Server.roomSessions, hstop] at hclosed ⊢
        obtain ⟨hlinked, hsubset⟩ := ih hclosed
        exact ⟨hlinked, List.Subset.trans hsubset (List.filter_subset_self _)⟩
      · have hsame : (room.leave id).links = room.links := by
          rw [room.leave_links]
          refine List.filter_eq_self.mpr fun link hlink => decide_eq_true ?_
          rintro rfl
          exact hlive ((h.seated link.1 nofun).mp ⟨link, hlink, rfl⟩)
        rw [← hsame] at h
        simp only [Server.roomSessions, storedObjects_stop_idle hlive]
        exact ih h

omit [Field K] [LinearOrder K] in
/-- The sessions of the players are registered. -/
theorem Linked.players (h : Linked n none registry room.links w) :
    ∀ entry ∈ room.players, ∃ session, entry.2.session = some session ∧
      ∃ registered ∈ registry, registered.2 = session := by
  intro entry hentry
  have hlink : (entry.1, entry.2.session) ∈ room.links :=
    List.mem_map_of_mem (Room.mem_seats.mpr ⟨entry, hentry, rfl⟩)
  have hlive := (h.seated entry.1 nofun).mp ⟨_, hlink, rfl⟩
  obtain ⟨registered, hmem, hkey⟩ := (h.registered entry.1 nofun).mpr hlive
  exact ⟨entry.1, h.references _ hlink, registered, hmem, (h.entries registered hmem).trans hkey⟩

omit [LinearOrder K] in
/-- **A broadcast** finds no expired session. -/
theorem Linked.broadcast (h : Linked n none registry room.links w) (type : MessageType)
    (payload : List UInt8) :
    Linked n none
        (room.broadcast (Server.roomSessions storedObjects) type payload (registry, w)).2.1
        (room.broadcast (Server.roomSessions storedObjects) type payload (registry, w)).1.links
        (room.broadcast (Server.roomSessions storedObjects) type payload (registry, w)).2.2 ∧
      (room.broadcast (Server.roomSessions storedObjects) type payload (registry, w)).2.1 ⊆
        registry := by
  obtain ⟨hexpired, hregistry, hlinked⟩ := broadcastLoop_linked h.players type payload w
  have hafter := hlinked h
  unfold Room.broadcast
  revert hexpired hregistry hafter
  generalize Room.broadcastLoop (Server.roomSessions storedObjects) type payload room.players
    (registry, w) = result
  obtain ⟨⟨expired, failed⟩, registry', w'⟩ := result
  rintro rfl rfl hafter
  exact hafter.dropFailed failed

end Broadcast

/-! ## Accepting -/

section Accepting

variable {n : ℕ} {registry : List (SessionId × SessionId)}
  {links : List (SessionId × Option SessionId)} {w : SessionStore} {id : SessionId}

theorem Linked.unknown {busy : Option SessionId} (h : Linked n busy registry links w)
    (hid : id.toNat = n + 1) : w.sessions id = none := by
  cases hsession : w.sessions id with
  | none => rfl
  | some session =>
      obtain ⟨-, -, hbelow⟩ := h.objects id session hsession
      omega

/-- A new session is registered, and not yet in the room. -/
theorem Linked.create (h : Linked n none registry links w) (hid : id.toNat = n + 1) :
    Linked (n + 1) (some id) (registry ++ [(id, id)]) links (w.put id { id := id }) := by
  have hnew := h.unknown hid
  have hothers : ∀ id', id' ≠ id → (w.put id { id := id }).sessions id' = w.sessions id' :=
    fun id' hother => Function.update_of_ne hother ..
  have hlive : ∀ id', some id' ≠ some id → ((w.put id { id := id }).Live id' ↔ w.Live id') := by
    intro id' hother
    unfold SessionStore.Live
    rw [hothers id' fun heq => hother (congrArg some heq)]
  refine ⟨?_, ?_, ?_, h.references, ?_, ?_⟩
  · intro id' hother
    rw [hlive id' hother, ← h.registered id' nofun]
    constructor
    · rintro ⟨entry, hentry, hkey⟩
      rcases List.mem_append.mp hentry with hold | hadded
      · exact ⟨entry, hold, hkey⟩
      · rw [List.mem_singleton.mp hadded] at hkey
        exact absurd (congrArg some hkey.symm) hother
    · rintro ⟨entry, hentry, hkey⟩
      exact ⟨entry, List.mem_append_left _ hentry, hkey⟩
  · intro id' hother
    exact (h.seated id' nofun).trans (hlive id' hother).symm
  · intro entry hentry
    rcases List.mem_append.mp hentry with hold | hadded
    · exact h.entries entry hold
    · rw [List.mem_singleton.mp hadded]
  · intro id' session hsession
    by_cases hsame : id' = id
    · subst hsame
      cases (Function.update_self ..).symm.trans hsession
      exact ⟨rfl, fun _ => rfl, hid.le⟩
    · obtain ⟨hkey, hsocket, hbelow⟩ :=
        h.objects id' session ((hothers id' hsame).symm.trans hsession)
      exact ⟨hkey, hsocket, Nat.le_succ_of_le hbelow⟩
  · intro id'
    have hcount := h.closings id'
    by_cases hsame : id' = id
    · subst hsame
      rw [hnew] at hcount
      rw [show (w.put id' { id := id' }).sessions id' = some { id := id' } from
        Function.update_self ..]
      exact hcount
    · rw [hothers id' hsame]
      exact hcount

/-- A new session enters the room. -/
theorem Linked.enter (h : Linked n (some id) registry links w) :
    Linked n (some id) registry (links ++ [(id, some id)]) w where
  registered := h.registered
  seated id' hother := by
    rw [← h.seated id' hother]
    constructor
    · rintro ⟨link, hlink, hkey⟩
      rcases List.mem_append.mp hlink with hold | hadded
      · exact ⟨link, hold, hkey⟩
      · rw [List.mem_singleton.mp hadded] at hkey
        exact absurd (congrArg some hkey.symm) hother
    · rintro ⟨link, hlink, hkey⟩
      exact ⟨link, List.mem_append_left _ hlink, hkey⟩
  entries := h.entries
  references link hlink := by
    rcases List.mem_append.mp hlink with hold | hadded
    · exact h.references link hold
    · rw [List.mem_singleton.mp hadded]
  objects := h.objects
  closings := h.closings

theorem SessionStore.Live.modify (h : w.Live id) (id' : SessionId) {f : Session → Session}
    (hclosed : ∀ session, (f session).closed = session.closed) : (w.modify id' f).Live id := by
  obtain ⟨session, hsession, hopen⟩ := h
  unfold SessionStore.modify
  cases hsession' : w.sessions id' with
  | none => exact ⟨session, hsession, hopen⟩
  | some session' =>
      by_cases hsame : id = id'
      · subst hsame
        cases hsession.symm.trans hsession'
        exact ⟨f session, Function.update_self .., (hclosed session).trans hopen⟩
      · exact ⟨session, (Function.update_of_ne hsame ..).trans hsession, hopen⟩

variable [Field K] [LinearOrder K] {s : Server K SessionId}

/-- What `EnterDefaultRoom` did to a new session. -/
structure EnterResult (n : ℕ) (id : SessionId) (s : Server K SessionId)
    (result : Bool × Server K SessionId × SessionStore) : Prop where
  linked : Linked n (some id) result.2.1.sessions result.2.1.room.links result.2.2
  live : result.2.2.Live id
  sessions : result.2.1.sessions = s.sessions
  stopped : result.2.1.stopped = s.stopped
  nextSessionId : result.2.1.nextSessionId = s.nextSessionId
  entered : result.1 = true → ∃ link ∈ result.2.1.room.links, link.1 = id

/-- **A new session enters the room**, or it does not and the room is as before. -/
theorem Linked.enterDefaultRoom (h : Linked n (some id) s.sessions s.room.links w)
    (hlive : w.Live id) : EnterResult n id s (s.enterDefaultRoom storedObjects id w) := by
  -- a player that cannot be told who it is leaves again
  have hleaves : ∀ {s' : Server K SessionId} {w'},
      Linked n (some id) s'.sessions s'.room.links w' → w'.Live id → s'.sessions = s.sessions →
        s'.stopped = s.stopped → s'.nextSessionId = s.nextSessionId →
          EnterResult n id s (false, s'.leaveDefaultRoom id, w') := by
    intro s' w' hlinked hlive' hsessions hstopped hnext
    refine ⟨?_, hlive', hsessions, hstopped, hnext, nofun⟩
    have hlinks : (s'.leaveDefaultRoom id).room.links =
        s'.room.links.filter fun link => link.1 ≠ id := s'.room.leave_links id
    have hleft := hlinked.leave
    rw [← hlinks] at hleft
    exact hleft
  unfold Server.enterDefaultRoom
  dsimp only
  rcases s.room.enter_frame id with ⟨playerId, -, hrefused⟩ | ⟨r', henter, hentered⟩
  · rw [show SessionObject.getId id = id from rfl, hrefused]
    exact ⟨h, hlive, rfl, rfl, rfl, nofun⟩
  rw [henter]
  have hlinks : r'.links = s.room.links ++ [(id, some id)] := hentered.links
  have hlinked : Linked n (some id) s.sessions r'.links w := by
    rw [hlinks]
    exact h.enter
  dsimp only
  split
  · exact hleaves hlinked hlive rfl rfl rfl
  have hsent := hlinked.send id .playerIdentity
  have hlive' : ∀ payload, (storedObjects.send id .playerIdentity payload w).2.Live id :=
    fun payload => hlive.modify id fun session => Session.send_closed ..
  split
  · exact hleaves (hsent _) (hlive' _) rfl rfl rfl
  · refine ⟨hsent _, hlive' _, rfl, rfl, rfl, fun _ => ⟨(id, some id), ?_, rfl⟩⟩
    show (id, some id) ∈ r'.links
    rw [hlinks]
    simp

end Accepting

/-! ## The operations of the server -/

/-- What holds of the server and its sessions between two handlers, with `n` sessions accepted. -/
structure Registered (n : ℕ) (t : ServerRun K) : Prop where
  linked : Linked n none t.server.sessions t.server.room.links t.objects
  next : t.server.nextSessionId = UInt64.ofNat (n + 1)
  stopped : t.server.stopped = true → t.server.sessions = []

section Operations

variable [Field K] [LinearOrder K] {n : ℕ} {t : ServerRun K}

omit [Field K] [LinearOrder K] in
theorem Registered.follows {t' : ServerRun K} (h : Registered n t)
    (hlinked : Linked n none t'.server.sessions t'.server.room.links t'.objects)
    (hfollows : t.server.Follows t'.server) : Registered n t' where
  linked := hlinked
  next := hfollows.nextSessionId.trans h.next
  stopped hstopped := by
    have hnone := h.stopped (hfollows.stopped.symm.trans hstopped)
    have hsubset := hfollows.sessions
    rw [hnone] at hsubset
    exact List.subset_nil.mp hsubset

omit [LinearOrder K] in
/-- What follows `EnterDefaultRoom`: the session starts, or the server gives it up. -/
theorem EnterResult.registered {s : Server K SessionId} {id : SessionId}
    {result : Bool × Server K SessionId × SessionStore} (h : EnterResult (n + 1) id s result)
    (hentry : (id, id) ∈ s.sessions) (hrunning : s.stopped = false)
    (hnext : s.nextSessionId = UInt64.ofNat (n + 1 + 1)) {after : Server K SessionId × SessionStore}
    (hafter : after = if result.1 then (result.2.1, storedObjects.start id result.2.2) else
      result.2.1.stopSession storedObjects id result.2.2) :
    Registered (n + 1) ⟨after.1, after.2⟩ := by
  subst hafter
  obtain ⟨entered, s', w'⟩ := result
  obtain ⟨hlinked, hlive, hsessions, hstopped, hnextSession, hentered⟩ := h
  dsimp only at hlinked hlive hsessions hstopped hnextSession hentered
  have hgoesOn : s'.stopped = false := hstopped.trans hrunning
  cases entered with
  | true =>
      have hsettled : Linked (n + 1) none s'.sessions s'.room.links w' := by
        refine hlinked.settle (iff_of_true ⟨(id, id), ?_, rfl⟩ hlive)
          (iff_of_true (hentered rfl) hlive)
        rw [hsessions]
        exact hentry
      refine ⟨hsettled.modify id (fun session => session.start_frame.1)
        (fun session => session.start_frame.2.1) (fun session => session.start_frame.2.2.1),
        hnextSession.trans hnext, ?_⟩
      · intro hstop
        rw [show s'.stopped = true from hstop] at hgoesOn
        cases hgoesOn
  | false =>
      obtain ⟨hgone, hfollows, -⟩ := hlinked.stopSession hlive
      refine ⟨hgone, hfollows.nextSessionId.trans (hnextSession.trans hnext), ?_⟩
      intro hstop
      rw [hfollows.stopped.symm.trans hstop] at hgoesOn
      cases hgoesOn

/-- **Accepting a connection** on a running server. -/
theorem Registered.handleAccept (h : Registered n t) (hrunning : t.server.stopped = false)
    (hids : n + 1 < 2 ^ 64) :
    Registered (n + 1) ⟨(t.server.handleAccept storedObjects t.objects).1,
      (t.server.handleAccept storedObjects t.objects).2⟩ := by
  have hid : t.server.nextSessionId.toNat = n + 1 := by
    rw [h.next, UInt64.toNat_ofNat']
    exact Nat.mod_eq_of_lt hids
  have hnext : t.server.nextSessionId + 1 = UInt64.ofNat (n + 1 + 1) := by
    rw [h.next]
    apply UInt64.toNat_inj.mp
    simp [UInt64.toNat_add, UInt64.toNat_ofNat']
  -- no registered session has this id
  have hnew : ¬ (t.server.sessions.any fun entry => entry.1 = t.server.nextSessionId) = true := by
    intro hany
    obtain ⟨entry, hentry, hkey⟩ := List.any_eq_true.mp hany
    obtain ⟨session, hsession, -⟩ := (h.linked.registered t.server.nextSessionId nofun).mp
      ⟨entry, hentry, of_decide_eq_true hkey⟩
    rw [h.linked.unknown hid] at hsession
    cases hsession
  have hresult := Linked.enterDefaultRoom (s := { t.server with
    nextSessionId := t.server.nextSessionId + 1
    sessions := t.server.sessions ++ [(t.server.nextSessionId, t.server.nextSessionId)] })
    (h.linked.create hid) ⟨_, Function.update_self .., rfl⟩
  apply hresult.registered (by simp) hrunning hnext
  unfold Server.handleAccept
  rw [if_neg (by simp [hrunning])]
  dsimp only
  rw [if_neg hnew]
  rfl

omit [LinearOrder K] in
/-- **`CloseAll`** closes every session there is. -/
theorem Linked.closeAll {s : Server K SessionId} {w : SessionStore}
    {entries : List (SessionId × SessionId)} (h : Linked n none s.sessions s.room.links w)
    (hentries : ∀ entry ∈ entries, entry.2 = entry.1)
    (hall : ∀ id, w.Live id → ∃ entry ∈ entries, entry.1 = id) :
    Linked n none (Server.closeAll storedObjects entries s w).1.sessions
        (Server.closeAll storedObjects entries s w).1.room.links
        (Server.closeAll storedObjects entries s w).2 ∧
      s.Follows (Server.closeAll storedObjects entries s w).1 ∧
      (Server.closeAll storedObjects entries s w).1.sessions = [] := by
  induction entries generalizing s w with
  | nil =>
      have hnone : s.sessions = [] := by
        apply List.eq_nil_iff_forall_not_mem.mpr
        intro entry hentry
        obtain ⟨other, hother, -⟩ := hall entry.1
          ((h.registered entry.1 nofun).mp ⟨entry, hentry, rfl⟩)
        cases hother
      unfold Server.closeAll
      rw [hnone] at h
      exact ⟨h, ⟨List.nil_subset _, rfl, rfl⟩, rfl⟩
  | cons entry entries ih =>
      have hkey : entry.2 = entry.1 := hentries entry List.mem_cons_self
      unfold Server.closeAll
      dsimp only
      by_cases hlive : w.Live entry.2
      · obtain ⟨hlinked, hfollows, hgone⟩ := (h.free entry.2).stopSession hlive
        -- what is still alive was alive before
        have hrest : ∀ id, (s.stopSession storedObjects entry.2 w).2.Live id →
            ∃ other ∈ entries, other.1 = id := by
          intro id hstill
          obtain ⟨registered, hmem, hid⟩ := (hlinked.registered id nofun).mpr hstill
          have hbefore : w.Live id :=
            (h.registered id nofun).mp ⟨registered, hfollows.sessions hmem, hid⟩
          obtain ⟨other, hother, hsame⟩ := hall id hbefore
          rcases List.mem_cons.mp hother with rfl | hother
          · rw [← hsame, ← hkey] at hstill
            exact absurd hstill hgone
          · exact ⟨other, hother, hsame⟩
        obtain ⟨hlinked', hfollows', hnone⟩ := ih hlinked
          (fun entry' hentry' => hentries entry' (List.mem_cons_of_mem _ hentry')) hrest
        exact ⟨hlinked', hfollows.trans hfollows', hnone⟩
      · rw [stopSession_idle hlive]
        refine ih h (fun entry' hentry' => hentries entry' (List.mem_cons_of_mem _ hentry')) ?_
        intro id hstill
        obtain ⟨other, hother, hsame⟩ := hall id hstill
        rcases List.mem_cons.mp hother with rfl | hother
        · rw [← hsame, ← hkey] at hstill
          exact absurd hstill hlive
        · exact ⟨other, hother, hsame⟩

omit [LinearOrder K] in
theorem Registered.stop (h : Registered n t) :
    Registered n ⟨(t.server.stop storedObjects t.objects).1,
        (t.server.stop storedObjects t.objects).2⟩ ∧
      (t.server.stop storedObjects t.objects).1.stopped = true := by
  unfold Server.stop
  split
  · next hstopped => exact ⟨h, hstopped⟩
  · obtain ⟨hlinked, hfollows, hnone⟩ := Linked.closeAll (s := { t.server with stopped := true })
      h.linked h.linked.entries fun id hlive => (h.linked.registered id nofun).mpr hlive
    exact ⟨⟨hlinked, hfollows.nextSessionId.trans h.next, fun _ => hnone⟩, hfollows.stopped⟩

variable [IsStrictOrderedRing K] [FloorRing K] [HasSqrt K]

theorem Registered.handleTick (h : Registered n t) (toFloat : K → FloatBits) (deltaSeconds : K) :
    Linked n none (t.server.handleTick storedObjects toFloat deltaSeconds t.objects).1.sessions
        (t.server.handleTick storedObjects toFloat deltaSeconds t.objects).1.room.links
        (t.server.handleTick storedObjects toFloat deltaSeconds t.objects).2 ∧
      t.server.Follows (t.server.handleTick storedObjects toFloat deltaSeconds t.objects).1 := by
  unfold Server.handleTick
  split
  · exact ⟨h.linked, .refl _⟩
  dsimp only
  generalize (if deltaSeconds > Server.maxServerTickDeltaSeconds then
    Server.maxServerTickDeltaSeconds else deltaSeconds) = capped
  have hticked : Linked n none t.server.sessions (t.server.room.tick capped).links t.objects := by
    rw [Room.tick_links]
    exact h.linked
  unfold Server.tickDefaultRoom
  dsimp only
  split
  · exact ⟨hticked, List.Subset.refl _, rfl, rfl⟩
  · obtain ⟨hlinked, hsubset⟩ := hticked.broadcast .worldStateSnapshot _
    exact ⟨hlinked, hsubset, rfl, rfl⟩

omit [IsStrictOrderedRing K] [FloorRing K] in
/-- A completed read of a session. -/
theorem Registered.read (h : Registered n t) {id : SessionId} {session : Session}
    (hsession : t.objects.sessions id = some session) (error : Option ErrorCode)
    (received : List UInt8) :
    let t' := t.handleSession id (session.retireRead.handleRead ServerRun.callbacks error received)
    Linked n none t'.server.sessions t'.server.room.links t'.objects ∧
      t.server.Follows t'.server := by
  have hread : session.retireRead.id = session.id := rfl
  exact h.linked.handleSession hsession
    (fun session => session.handleRead ServerRun.callbacks error received) hread rfl rfl
    fun hhandling => handling_updates.handleRead
      (fun hreading => handling_keeps.readNext hreading) error received hhandling

omit [IsStrictOrderedRing K] [FloorRing K] in
/-- A completed write of a session. -/
theorem Registered.written (h : Registered n t) {id : SessionId} {session : Session}
    (hsession : t.objects.sessions id = some session) (i : ℕ) (error : Option ErrorCode)
    (bytesTransferred : ℕ) :
    let t' := t.handleSession id
      ((session.retireWrite i).handleWrite ServerRun.callbacks error bytesTransferred)
    Linked n none t'.server.sessions t'.server.room.links t'.objects ∧
      t.server.Follows t'.server := by
  have hwritten : (session.retireWrite i).id = session.id := rfl
  exact h.linked.handleSession hsession
    (fun session => session.handleWrite ServerRun.callbacks error bytesTransferred) hwritten rfl
    rfl fun hhandling => handling_keeps.handleWrite error bytesTransferred hhandling

/-! ## Whole runs -/

/-- **One handler.** It registers at most the session it accepts, and a stopped server stays
stopped. -/
theorem Registered.step (h : Registered n t) (toFloat : K → FloatBits) {event : ServerEvent K}
    {t' : ServerRun K} (hstep : t.step toFloat event = some t')
    (hids : t.server.stopped = false → event.isAccept = true → n + 1 < 2 ^ 64) :
    ∃ n', Registered n' t' ∧
      (t'.server.stopped = false → t.server.stopped = false ∧ event.isStop = false ∧
        n' = n + if event.isAccept then 1 else 0) := by
  -- all but accepting and stopping
  have hgoesOn : event.isAccept = false → event.isStop = false →
      Linked n none t'.server.sessions t'.server.room.links t'.objects →
        t.server.Follows t'.server → ∃ n', Registered n' t' ∧
          (t'.server.stopped = false → t.server.stopped = false ∧ event.isStop = false ∧
            n' = n + if event.isAccept then 1 else 0) := by
    intro haccept hstop hlinked hfollows
    refine ⟨n, h.follows hlinked hfollows, fun hrunning => ?_⟩
    rw [haccept]
    exact ⟨hfollows.stopped.symm.trans hrunning, hstop, rfl⟩
  cases event with
  | accept =>
      obtain rfl : (⟨(t.server.handleAccept storedObjects t.objects).1,
        (t.server.handleAccept storedObjects t.objects).2⟩ : ServerRun K) = t' :=
          Option.some.inj hstep
      by_cases hstopped : t.server.stopped = true
      · have hsame : t.server.handleAccept storedObjects t.objects = (t.server, t.objects) := by
          unfold Server.handleAccept
          rw [if_pos hstopped]
        rw [hsame]
        exact ⟨n, h, fun hrunning => absurd (hrunning.symm.trans hstopped) Bool.false_ne_true⟩
      · have hrunning : t.server.stopped = false := Bool.eq_false_iff.mpr hstopped
        exact ⟨n + 1, h.handleAccept hrunning (hids hrunning rfl), fun _ => ⟨hrunning, rfl, rfl⟩⟩
  | read id received error =>
      unfold ServerRun.step at hstep
      dsimp only at hstep
      split at hstep
      · cases hstep
      · next session hsession =>
          split at hstep
          · cases hstep
          · cases hstep
            obtain ⟨hlinked, hfollows⟩ := h.read hsession error received
            exact hgoesOn rfl rfl hlinked hfollows
  | written id i error bytesTransferred =>
      unfold ServerRun.step at hstep
      dsimp only at hstep
      split at hstep
      · cases hstep
      · next session hsession =>
          split at hstep
          · cases hstep
          · cases hstep
            obtain ⟨hlinked, hfollows⟩ := h.written hsession i error bytesTransferred
            exact hgoesOn rfl rfl hlinked hfollows
  | tick deltaSeconds =>
      cases hstep
      obtain ⟨hlinked, hfollows⟩ := h.handleTick toFloat deltaSeconds
      exact hgoesOn rfl rfl hlinked hfollows
  | broadcast type payload =>
      cases hstep
      obtain ⟨hlinked, hsubset⟩ := h.linked.broadcast type payload
      exact hgoesOn rfl rfl hlinked ⟨hsubset, rfl, rfl⟩
  | stop =>
      cases hstep
      obtain ⟨hregistered, hstopped⟩ := h.stop
      refine ⟨n, hregistered, fun hrunning => ?_⟩
      rw [show (t.server.stop storedObjects t.objects).1.stopped = false from hrunning] at hstopped
      cases hstopped

/-- Any number of handlers. -/
theorem Registered.run (h : Registered n t) (toFloat : K → FloatBits)
    {events : List (ServerEvent K)}
    {t' : ServerRun K} (hrun : runFrom (ServerRun.step toFloat) t events = some t')
    (hids : t.server.stopped = false → n + sessionsAccepted events < 2 ^ 64) :
    ∃ n', Registered n' t' ∧
      (t'.server.stopped = false → t.server.stopped = false ∧ ServerEvent.stop ∉ events) := by
  induction events generalizing n t with
  | nil =>
      cases hrun
      exact ⟨n, h, fun hrunning => ⟨hrunning, List.not_mem_nil⟩⟩
  | cons event events ih =>
      rw [runFrom_cons, Option.bind_eq_some_iff] at hrun
      obtain ⟨t₁, hstep, hrest⟩ := hrun
      have haccepted : t.server.stopped = false → event.isAccept = true → n + 1 < 2 ^ 64 := by
        intro hstart haccept
        have hbound := hids hstart
        rw [sessionsAccepted_cons, haccept, if_pos rfl] at hbound
        split at hbound
        · next hstop => cases event <;> cases haccept; cases hstop
        · omega
      obtain ⟨n₁, h₁, hrunning₁⟩ := h.step toFloat hstep haccepted
      have hids₁ : t₁.server.stopped = false → n₁ + sessionsAccepted events < 2 ^ 64 := by
        intro hstill
        obtain ⟨hstart, hgoesOn, hissued⟩ := hrunning₁ hstill
        have hbound := hids hstart
        rw [sessionsAccepted_cons, hgoesOn, if_neg Bool.false_ne_true] at hbound
        omega
      obtain ⟨n', h', hrunning'⟩ := ih h₁ hrest hids₁
      refine ⟨n', h', fun hrunning => ?_⟩
      obtain ⟨hstill, hnever⟩ := hrunning' hrunning
      obtain ⟨hstart, hgoesOn, -⟩ := hrunning₁ hstill
      refine ⟨hstart, fun hstop => ?_⟩
      rcases List.mem_cons.mp hstop with rfl | hlater
      · cases hgoesOn
      · exact hnever hlater

/-- What holds between two handlers: a session is registered, and has a player, exactly while it is
not closed; nothing else is registered or has a player; `onClosed_` was called once for each session
that is closed and for no other; and a broadcast, at once or after the room has been ticked, will
not find an expired session. -/
structure RegistryKept (t : ServerRun K) : Prop where
  registered : ∀ id session, t.objects.sessions id = some session →
    ((∃ entry ∈ t.server.sessions, entry.1 = id) ↔ session.closed = false)
  seated : ∀ id session, t.objects.sessions id = some session →
    ((∃ entry ∈ t.server.room.players, entry.1 = id) ↔ session.closed = false)
  registeredKnown : ∀ entry ∈ t.server.sessions, (t.objects.sessions entry.1).isSome
  seatedKnown : ∀ entry ∈ t.server.room.players, (t.objects.sessions entry.1).isSome
  closings : ∀ id, t.objects.closedLog.count id = closingsOf (t.objects.sessions id)
  unexpired : ∀ type payload, (Room.broadcastLoop (Server.roomSessions storedObjects) type payload
    t.server.room.players (t.server.sessions, t.objects)).1.1 = []
  unexpiredTick : ∀ deltaSeconds type payload,
    (Room.broadcastLoop (Server.roomSessions storedObjects) type payload
      (t.server.room.tick deltaSeconds).players (t.server.sessions, t.objects)).1.1 = []

omit [Field K] [LinearOrder K] [IsStrictOrderedRing K] [FloorRing K] [HasSqrt K] in
theorem Room.exists_link {r : Room K SessionId} {id : SessionId} :
    (∃ link ∈ r.links, link.1 = id) ↔ ∃ entry ∈ r.players, entry.1 = id := by
  simp only [Room.links, Room.seats, List.mem_map, exists_exists_and_eq_and, seatOf]

theorem Registered.kept (h : Registered n t) : RegistryKept t := by
  have hlive : ∀ id session, t.objects.sessions id = some session →
      (t.objects.Live id ↔ session.closed = false) := by
    intro id session hsession
    constructor
    · rintro ⟨session', hsession', hopen⟩
      obtain rfl : session = session' := Option.some.inj (hsession.symm.trans hsession')
      exact hopen
    · intro hopen
      exact ⟨session, hsession, hopen⟩
  have hknown : ∀ id, t.objects.Live id → (t.objects.sessions id).isSome := by
    rintro id ⟨session, hsession, -⟩
    exact Option.isSome_iff_exists.mpr ⟨session, hsession⟩
  refine ⟨?_, ?_, ?_, ?_, h.linked.closings, ?_, ?_⟩
  · intro id session hsession
    exact (h.linked.registered id nofun).trans (hlive id session hsession)
  · intro id session hsession
    exact Room.exists_link.symm.trans ((h.linked.seated id nofun).trans (hlive id session hsession))
  · intro entry hentry
    exact hknown entry.1 ((h.linked.registered entry.1 nofun).mp
      ⟨entry, hentry, rfl⟩)
  · intro entry hentry
    exact hknown entry.1 ((h.linked.seated entry.1 nofun).mp
      (Room.exists_link.mpr ⟨entry, hentry, rfl⟩))
  · intro type payload
    exact (broadcastLoop_linked h.linked.players type payload t.objects).1
  · intro deltaSeconds type payload
    have hticked := h.linked
    rw [← t.server.room.tick_links deltaSeconds] at hticked
    exact (broadcastLoop_linked hticked.players type payload t.objects).1

omit [LinearOrder K] [IsStrictOrderedRing K] [FloorRing K] [HasSqrt K] in
theorem registered_initial : Registered 0 (ServerRun.initial : ServerRun K) where
  linked := by
    have hnobody : ∀ id, ¬ ({} : SessionStore).Live id := by
      rintro id ⟨session, hsession, -⟩
      cases hsession
    refine ⟨?_, ?_, nofun, nofun, nofun, fun id => rfl⟩
    · intro id _
      exact iff_of_false nofun (hnobody id)
    · intro id _
      exact iff_of_false nofun (hnobody id)
  next := rfl
  stopped := nofun

/-- **Registry and room never diverge**, in any run in which the ids of the sessions do not wrap.
Once the server was stopped both are empty. -/
theorem registry_never_diverges (toFloat : K → FloatBits) (events : List (ServerEvent K))
    (hids : sessionsAccepted events < 2 ^ 64) {t : ServerRun K}
    (hrun : runFrom (ServerRun.step toFloat) ServerRun.initial events = some t) :
    RegistryKept t ∧
      (ServerEvent.stop ∈ events → t.server.sessions = [] ∧ t.server.room.players = []) := by
  obtain ⟨n, h, hrunning⟩ := registered_initial.run toFloat hrun fun _ => by omega
  refine ⟨h.kept, fun hstop => ?_⟩
  have hstopped : t.server.stopped = true := by
    by_contra hno
    exact (hrunning (Bool.eq_false_iff.mpr hno)).2 hstop
  have hnone : t.server.sessions = [] := h.stopped hstopped
  refine ⟨hnone, List.eq_nil_iff_forall_not_mem.mpr fun entry hentry => ?_⟩
  have hlive := (h.linked.seated entry.1 nofun).mp (Room.exists_link.mpr ⟨entry, hentry, rfl⟩)
  obtain ⟨registered, hmem, -⟩ := (h.linked.registered entry.1 nofun).mpr hlive
  rw [hnone] at hmem
  cases hmem

/-- Two sessions find room and a third does not, one of them goes away, and the server stops. -/
def crowded : List (ServerEvent ℚ) :=
  [.accept, .accept, .accept, .tick (1 / 60), .read 1 [] (some .eof), .tick (1 / 60), .stop,
    .read 2 [] (some .operationAborted)]

theorem registry_never_diverges_crowded :
    ∃ t, runFrom (ServerRun.step nearestFloat) ServerRun.initial crowded = some t ∧
      RegistryKept t ∧ t.server.sessions = [] ∧ t.objects.closedLog = [3, 1, 2] := by
  have hlog : (runFrom (ServerRun.step nearestFloat) ServerRun.initial crowded).map
      (fun t => t.objects.closedLog) = some [3, 1, 2] := by decide +kernel
  obtain ⟨t, hrun, hclosed⟩ := Option.map_eq_some_iff.mp hlog
  obtain ⟨hkept, hempty⟩ := registry_never_diverges nearestFloat crowded (by decide) hrun
  exact ⟨t, hrun, hkept, (hempty (by simp [crowded])).1, hclosed⟩

end Operations

end NetworkArena.Server
