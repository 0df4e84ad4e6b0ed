/-
# NetworkArena.System.LiveSessions -- which sessions are live

A session is live until it is closed. Live sessions are registered, no two of them have one id, and
every seat of the room belongs to a live session (`Lively`): whoever closes a session makes its
player leave. So an input that a session hands to the server, with nothing but its id, reaches its
own player.

`Stays` says what the operations of the server do not do, accepting a connection apart: nobody gets
a seat, no input changes, and no session dispatches anything.
-/
import NetworkArena.System.ServerSide

namespace NetworkArena.System

open NetworkArena.Foundation
open NetworkArena.Shared
open NetworkArena.Server
open NetworkArena.Client

variable {K : Type}

/-! ## Live sessions -/

/-- A session object that is not closed. -/
def Live (channels : Channels) (session : SessionRef) : Prop :=
  ∃ server, channels.sessionAt session.client session.generation = some server ∧
    server.session.id = session.id ∧ server.session.closed = false

/-- A session object that was created. -/
def Created (channels : Channels) (session : SessionRef) : Prop :=
  ∃ server, channels.sessionAt session.client session.generation = some server ∧
    server.session.id = session.id

structure Lively (s : Server K SessionRef) (channels : Channels) : Prop where
  registered : s.stopped = false → ∀ session, Live channels session →
    ∃ entry ∈ s.sessions, entry.1 = session.id
  unique : ∀ session session', Live channels session → Live channels session' →
    session.id = session'.id → session = session'
  seated : ∀ seat ∈ s.room.seats, ∃ session, seat.session = some session ∧
    session.id = seat.key ∧ Live channels session
  created : ∀ entry ∈ s.sessions, Created channels entry.2
  sockets : ∀ n g server, channels.sessionAt n g = some server → server.session.closed = false →
    server.session.socketOpen = true

theorem lively_initial [Field K] [LinearOrder K] :
    Lively (Server.create : Server K SessionRef) fun _ => { application := {} } := by
  have hnone : ∀ session, ¬ Live (fun _ => { application := {} }) session := by
    rintro session ⟨server, hserver, -⟩
    cases hserver
  exact ⟨fun _ session hlive => absurd hlive (hnone session),
    fun session _ hlive => absurd hlive (hnone session), nofun, nofun, nofun⟩

/-- What becomes of the session of a connection: it may close, and never opens again. -/
inductive EndStays : Option ServerEnd → Option ServerEnd → Prop
  | same {server : Option ServerEnd} : EndStays server server
  | changed {server server' : ServerEnd} (hid : server'.session.id = server.session.id)
      (hopen : server'.session.closed = false → server.session.closed = false ∧
        server'.session.socketOpen = server.session.socketOpen) :
      EndStays (some server) (some server')

/-- Nobody gets a seat, and no session is opened. -/
structure Persists (s s' : Server K SessionRef) (channels channels' : Channels) : Prop where
  seats : ∀ seat ∈ s'.room.seats, ∃ old ∈ s.room.seats,
    old.key = seat.key ∧ old.session = seat.session
  ends : ∀ n g, EndStays (channels.sessionAt n g) (channels'.sessionAt n g)

/-- Nobody gets a seat or another input, no session is opened, and none dispatches anything. -/
structure Stays (s s' : Server K SessionRef) (channels channels' : Channels) : Prop where
  seats : ∀ seat ∈ s'.room.seats, seat ∈ s.room.seats
  ends : ∀ n g, EndStays (channels.sessionAt n g) (channels'.sessionAt n g)
  dispatched : ∀ n g,
    Link.dispatched ((channels' n).links g) = Link.dispatched ((channels n).links g)

section Stays

variable {s s' s'' : Server K SessionRef} {channels channels' channels'' : Channels}
  {session : SessionRef}

theorem EndStays.trans {server server' server'' : Option ServerEnd} (h : EndStays server server')
    (h' : EndStays server' server'') : EndStays server server'' := by
  cases h with
  | same => exact h'
  | changed hid hopen =>
      cases h' with
      | same => exact .changed hid hopen
      | changed hid' hopen' =>
          refine .changed (hid'.trans hid) ?_
          intro hlast
          obtain ⟨hmiddle, hsocket'⟩ := hopen' hlast
          obtain ⟨hfirst, hsocket⟩ := hopen hmiddle
          exact ⟨hfirst, hsocket'.trans hsocket⟩

theorem Stays.refl (s : Server K SessionRef) (channels : Channels) :
    Stays s s channels channels :=
  ⟨fun _ h => h, fun _ _ => .same, fun _ _ => rfl⟩

theorem Stays.trans (h : Stays s s' channels channels') (h' : Stays s' s'' channels' channels'') :
    Stays s s'' channels channels'' where
  seats seat hseat := h.seats seat (h'.seats seat hseat)
  ends n g := (h.ends n g).trans (h'.ends n g)
  dispatched n g := (h'.dispatched n g).trans (h.dispatched n g)

theorem Stays.persists (h : Stays s s' channels channels') : Persists s s' channels channels' :=
  ⟨fun seat hseat => ⟨seat, h.seats seat hseat, rfl, rfl⟩, h.ends⟩

/-- Seats may be given up. -/
theorem stays_seats (channels : Channels) (h : ∀ seat ∈ s'.room.seats, seat ∈ s.room.seats) :
    Stays s s' channels channels :=
  ⟨h, fun _ _ => .same, fun _ _ => rfl⟩

/-- One session changes. -/
theorem stays_modifySession (hseats : ∀ seat ∈ s'.room.seats, seat ∈ s.room.seats)
    (channels : Channels) (n g : ℕ) {f : ServerEnd → ServerEnd}
    (hid : ∀ server, (f server).session.id = server.session.id)
    (hdispatched : ∀ server, (f server).session.dispatched = server.session.dispatched)
    (hopen : ∀ server, (f server).session.closed = false → server.session.closed = false ∧
      (f server).session.socketOpen = server.session.socketOpen) :
    Stays s s' channels (channels.modifySession n g f) := by
  refine ⟨hseats, ?_, ?_⟩
  · intro n' g'
    rw [Channels.sessionAt_modifySession]
    split
    · next hsame =>
        rw [hsame.1, hsame.2]
        cases channels.sessionAt n g with
        | none => exact .same
        | some server => exact .changed (hid server) (hopen server)
    · exact .same
  · intro n' g'
    have hsession := channels.sessionAt_modifySession n g f n' g'
    unfold Channels.sessionAt at hsession
    unfold Link.dispatched
    rw [hsession]
    split
    · next hsame =>
        rw [hsame.1, hsame.2]
        cases ((channels n).links g).bind Link.serverEnd with
        | none => rfl
        | some server => exact hdispatched server
    · rfl

/-- Changes of a session that do not close it. -/
theorem Live.modifySession (h : Live channels session) (n g : ℕ) {f : ServerEnd → ServerEnd}
    (hid : ∀ server, (f server).session.id = server.session.id)
    (hclosed : ∀ server, (f server).session.closed = server.session.closed) :
    Live (channels.modifySession n g f) session := by
  obtain ⟨server, hserver, hsame, hopen⟩ := h
  unfold Live
  rw [Channels.sessionAt_modifySession]
  split
  · next hat =>
      rw [← hat.1, ← hat.2, hserver]
      exact ⟨f server, rfl, (hid server).trans hsame, (hclosed server).trans hopen⟩
  · exact ⟨server, hserver, hsame, hopen⟩

/-- No session comes to life. -/
theorem Persists.live (h : Persists s s' channels channels') (hlive : Live channels' session) :
    Live channels session := by
  obtain ⟨server', hserver', hid', hopen⟩ := hlive
  have hend := h.ends session.client session.generation
  rw [hserver'] at hend
  generalize hserver : channels.sessionAt session.client session.generation = before at hend
  cases hend with
  | same => exact ⟨server', hserver, hid', hopen⟩
  | @changed server _ hid hopen' =>
      exact ⟨server, hserver, hid.symm.trans hid', (hopen' hopen).1⟩

theorem Persists.created (h : Persists s s' channels channels')
    (hcreated : Created channels session) :
    Created channels' session := by
  obtain ⟨server, hserver, hid⟩ := hcreated
  have hend := h.ends session.client session.generation
  rw [hserver] at hend
  generalize hserver' : channels'.sessionAt session.client session.generation = after at hend
  cases hend with
  | same => exact ⟨server, hserver', hid⟩
  | changed hid' hopen => exact ⟨_, hserver', hid'.trans hid⟩

theorem Live.created (h : Live channels session) : Created channels session := by
  obtain ⟨server, hserver, hid, -⟩ := h
  exact ⟨server, hserver, hid⟩

/-- **What stays lively**: live sessions stay registered, and seats keep theirs. -/
theorem Lively.persists (h : Lively s channels) (hpersists : Persists s s' channels channels')
    (hentries : ∀ entry ∈ s'.sessions, entry ∈ s.sessions)
    (hstopped : s.stopped = true → s'.stopped = true)
    (hregistered : s'.stopped = false → ∀ session, Live channels' session →
      ∀ entry ∈ s.sessions, entry.1 = session.id → entry ∈ s'.sessions)
    (hseated : ∀ seat ∈ s'.room.seats, ∀ session, session.id = seat.key →
      Live channels session → Live channels' session) : Lively s' channels' where
  registered hrunning session hlive := by
    have hbefore : s.stopped = false := by
      by_contra hno
      rw [hstopped (by simpa using hno)] at hrunning
      cases hrunning
    obtain ⟨entry, hentry, hid⟩ := h.registered hbefore session (hpersists.live hlive)
    exact ⟨entry, hregistered hrunning session hlive entry hentry hid, hid⟩
  unique session session' hlive hlive' :=
    h.unique session session' (hpersists.live hlive) (hpersists.live hlive')
  seated seat hseat := by
    obtain ⟨old, hold, hkey, hsame⟩ := hpersists.seats seat hseat
    obtain ⟨session, hsession, hid, hlive⟩ := h.seated old hold
    have hid' : session.id = seat.key := hid.trans hkey
    exact ⟨session, hsame ▸ hsession, hid', hseated seat hseat session hid' hlive⟩
  created entry hentry := hpersists.created (h.created entry (hentries entry hentry))
  sockets n g server' hserver' hopen := by
    have hend := hpersists.ends n g
    rw [hserver'] at hend
    generalize hserver : channels.sessionAt n g = before at hend
    cases hend with
    | same => exact h.sockets n g server' hserver hopen
    | changed hid hsame =>
        obtain ⟨hbefore, hsocket⟩ := hsame hopen
        exact hsocket.trans (h.sockets n g _ hserver hbefore)

/-- Only the sessions of the connections count. -/
theorem Lively.of_sessions (h : Lively s channels)
    (hat : ∀ n g, channels'.sessionAt n g = channels.sessionAt n g) : Lively s channels' := by
  have hpersists : Persists s s channels channels' :=
    ⟨fun seat hseat => ⟨seat, hseat, rfl, rfl⟩, fun n g => by rw [hat]; exact .same⟩
  refine h.persists hpersists (fun _ hentry => hentry) (fun hstopped => hstopped)
    (fun _ _ _ _ hentry _ => hentry) ?_
  rintro - - session - ⟨server, hserver, hlive⟩
  exact ⟨server, (hat _ _).trans hserver, hlive⟩

end Stays

/-! ## Closing sessions -/

section Closing

variable {s s' : Server K SessionRef} {channels : Channels} {session other : SessionRef}

theorem stays_stop (hseats : ∀ seat ∈ s'.room.seats, seat ∈ s.room.seats) (channels : Channels)
    (n g : ℕ) (session : SessionRef) :
    Stays s s' channels ((sessionObjects n g).stop session channels).2 := by
  refine stays_modifySession hseats channels _ _ ?_ ?_ ?_
  · intro server
    exact Session.close_id ..
  · intro server
    exact Session.close_dispatched ..
  · intro server hopen
    rw [show (server.session.stop closeRecorder false).1.closed = true from
      Session.close_closed ..] at hopen
    cases hopen

/-- Other sessions stay live. -/
theorem Live.stop (h : Live channels other) (n g : ℕ)
    (hother : ¬ (other.client = session.client ∧ other.generation = session.generation)) :
    Live ((sessionObjects n g).stop session channels).2 other := by
  obtain ⟨server, hserver, hlive⟩ := h
  refine ⟨server, ?_, hlive⟩
  show (channels.modifySession _ _ _).sessionAt _ _ = _
  rw [Channels.sessionAt_modifySession, if_neg hother]
  exact hserver

/-- The session that was stopped is not live. -/
theorem not_live_stop (n g : ℕ) (h : Live ((sessionObjects n g).stop session channels).2 other) :
    ¬ (other.client = session.client ∧ other.generation = session.generation) := by
  rintro hsame
  obtain ⟨server', hserver', -, hopen⟩ := h
  change (channels.modifySession _ _ _).sessionAt _ _ = _ at hserver'
  rw [Channels.sessionAt_modifySession, if_pos hsame] at hserver'
  obtain ⟨server, -, rfl⟩ := Option.map_eq_some_iff.mp hserver'
  rw [show (server.session.stop closeRecorder false).1.closed = true from
    Session.close_closed ..] at hopen
  cases hopen

/-- A session calls `onClosed_` when it is stopped if it was live. -/
theorem Lively.stop_calls (h : Lively s channels) (n g : ℕ) (hcreated : Created channels session) :
    ((sessionObjects n g).stop session channels).1 = true ↔ Live channels session := by
  obtain ⟨server, hserver, hid⟩ := hcreated
  have hcalls : ((sessionObjects n g).stop session channels).1 =
      (server.session.stop closeRecorder false).2 := by
    show (channels.sessionAt session.client session.generation).any _ = _
    rw [hserver]
    rfl
  rw [hcalls]
  unfold Session.stop Session.close
  by_cases hclosed : server.session.closed = true
  · rw [if_pos hclosed]
    refine ⟨nofun, ?_⟩
    rintro ⟨server', hserver', -, hopen⟩
    rw [hserver] at hserver'
    cases hserver'
    rw [hclosed] at hopen
    cases hopen
  · rw [if_neg hclosed]
    have hopen : server.session.closed = false := by simpa using hclosed
    simp only [h.sockets _ _ server hserver hopen, Bool.not_true, Bool.false_eq_true, if_false,
      closeRecorder]
    exact iff_of_true trivial ⟨server, hserver, hid, hopen⟩

/-- **A session is closed**, and its player leaves. -/
theorem Lively.closes (h : Lively s channels) (n g : ℕ) (hcreated : Created channels session)
    (hseats : ∀ seat ∈ s'.room.seats, seat ∈ s.room.seats)
    (hleft : Live channels session → ∀ seat ∈ s'.room.seats, seat.key ≠ session.id)
    (hsessions : s'.sessions = if ((sessionObjects n g).stop session channels).1 then
      s.sessions.filter (fun entry => entry.1 ≠ session.id) else s.sessions)
    (hstopped : s.stopped = true → s'.stopped = true) :
    Lively s' ((sessionObjects n g).stop session channels).2 := by
  have hentries : ∀ entry, entry ∈ s'.sessions ↔
      entry ∈ s.sessions ∧ (Live channels session → entry.1 ≠ session.id) := by
    intro entry
    rw [hsessions]
    by_cases hlive : Live channels session
    · rw [if_pos ((h.stop_calls n g hcreated).mpr hlive), List.mem_filter]
      simp [hlive]
    · rw [if_neg (mt (h.stop_calls n g hcreated).mp hlive)]
      simp [hlive]
  -- a live session at the connection of the one that is closed is that one
  have hsame : ∀ other, Live channels other →
      other.client = session.client ∧ other.generation = session.generation →
        other = session ∧ Live channels session := by
    rintro ⟨client, generation, id⟩ ⟨server, hserver, hid, hopen⟩ ⟨rfl, rfl⟩
    obtain ⟨server', hserver', hid'⟩ := hcreated
    rw [hserver] at hserver'
    cases hserver'
    obtain rfl : id = session.id := hid.symm.trans hid'
    exact ⟨rfl, server, hserver, hid, hopen⟩
  have hstays := stays_stop hseats channels n g session
  refine h.persists hstays.persists (fun entry hentry => ((hentries entry).mp hentry).1) hstopped
    ?_ ?_
  · intro _ other hlive entry hentry hid
    refine (hentries entry).mpr ⟨hentry, fun hclosing hgone => ?_⟩
    have hne := not_live_stop n g hlive
    rw [h.unique other session (hstays.persists.live hlive) hclosing (hid.symm.trans hgone)] at hne
    exact hne ⟨rfl, rfl⟩
  · intro seat hseat other hid hlive
    refine hlive.stop n g ?_
    intro hat
    obtain ⟨rfl, hclosing⟩ := hsame other hlive hat
    exact hleft hclosing seat hseat hid.symm

variable [Field K]

theorem seats_leave (r : Room K SessionRef) (id : SessionId) :
    ∀ seat ∈ (r.leave id).seats, seat ∈ r.seats ∧ seat.key ≠ id := by
  intro seat hseat
  rw [(r.leave_frame id).1] at hseat
  simpa using hseat

theorem seats_leaves (ids : List SessionId) (r : Room K SessionRef) :
    ∀ seat ∈ (ids.foldl Room.leave r).seats, seat ∈ r.seats := by
  induction ids generalizing r with
  | nil => exact fun _ h => h
  | cons id ids ih => exact fun seat hseat => (seats_leave r id seat (ih _ seat hseat)).1

/-- **The server stops a session.** -/
theorem Lively.stopSession (h : Lively s channels) (n g : ℕ) (hcreated : Created channels session) :
    Lively (s.stopSession (sessionObjects n g) session channels).1
        (s.stopSession (sessionObjects n g) session channels).2 ∧
      Stays s (s.stopSession (sessionObjects n g) session channels).1 channels
        (s.stopSession (sessionObjects n g) session channels).2 := by
  unfold Server.stopSession
  dsimp only
  split
  · next hcalls =>
      have hseats := seats_leave s.room session.id
      refine ⟨h.closes n g hcreated (fun seat hseat => (hseats seat hseat).1)
        (fun _ seat hseat => (hseats seat hseat).2) ?_ id,
        stays_stop (fun seat hseat => (hseats seat hseat).1) channels n g session⟩
      rw [if_pos hcalls]
      rfl
  · next hcalls =>
      refine ⟨h.closes n g hcreated (fun _ hseat => hseat) (fun hlive => ?_) ?_ id,
        stays_stop (fun _ hseat => hseat) channels n g session⟩
      · exact absurd ((h.stop_calls n g hcreated).mpr hlive) hcalls
      · rw [if_neg hcalls]

/-- **The server stops.** -/
theorem Lively.stop (h : Lively s channels) (n g : ℕ) :
    Lively (s.stop (sessionObjects n g) channels).1 (s.stop (sessionObjects n g) channels).2 ∧
      Stays s (s.stop (sessionObjects n g) channels).1 channels
        (s.stop (sessionObjects n g) channels).2 := by
  have hclose : ∀ (entries : List (SessionId × SessionRef)) (s : Server K SessionRef)
      (channels : Channels), Lively s channels → s.stopped = true →
        (∀ entry ∈ entries, Created channels entry.2) →
          Lively (s.closeAll (sessionObjects n g) entries channels).1
              (s.closeAll (sessionObjects n g) entries channels).2 ∧
            Stays s (s.closeAll (sessionObjects n g) entries channels).1 channels
              (s.closeAll (sessionObjects n g) entries channels).2 := by
    intro entries
    induction entries with
    | nil =>
        intro s channels h hstopped _
        have hseats : Stays s { s with sessions := [] } channels channels :=
          stays_seats channels fun _ hseat => hseat
        refine ⟨h.persists hseats.persists nofun (fun _ => hstopped) ?_
          fun _ _ _ _ hlive => hlive, hseats⟩
        intro hrunning
        rw [show s.stopped = false from hrunning] at hstopped
        cases hstopped
    | cons entry entries ih =>
        intro s channels h hstopped hcreated
        obtain ⟨hfirst, hstays⟩ := h.stopSession n g (hcreated entry List.mem_cons_self)
        have hstill : (s.stopSession (sessionObjects n g) entry.2 channels).1.stopped = true := by
          unfold Server.stopSession
          dsimp only
          split
          · exact hstopped
          · exact hstopped
        obtain ⟨hrest, hstays'⟩ := ih _ _ hfirst hstill fun entry' hentry' =>
          hstays.persists.created (hcreated entry' (List.mem_cons_of_mem _ hentry'))
        exact ⟨hrest, hstays.trans hstays'⟩
  unfold Server.stop
  split
  · exact ⟨h, .refl s channels⟩
  · have hseats : Stays s { s with stopped := true } channels channels :=
      stays_seats channels fun _ hseat => hseat
    have hstopped : Lively { s with stopped := true } channels :=
      h.persists hseats.persists (fun _ hentry => hentry) (fun _ => rfl) nofun
        fun _ _ _ _ hlive => hlive
    obtain ⟨hlively, hstays⟩ := hclose s.sessions _ channels hstopped rfl h.created
    exact ⟨hlively, hseats.trans hstays⟩

end Closing

/-! ## Ticks -/

section Ticks

variable [Field K] [LinearOrder K] {s : Server K SessionRef} {channels : Channels}

/-- What comes of sending a message to some players. -/
structure Told (s : Server K SessionRef) (players : List (SessionId × Player K SessionRef))
    (registry : List (SessionId × SessionRef)) (channels : Channels)
    (told : (List SessionId × List SessionRef) × List (SessionId × SessionRef) × Channels) :
    Prop where
  registry : told.2.1 = registry
  stays : Stays s s channels told.2.2
  live : ∀ session, Live channels session → Live told.2.2 session
  failed : ∀ session ∈ told.1.2, ∃ entry ∈ players, entry.2.session = some session

omit [Field K] [LinearOrder K] in
theorem told_broadcastLoop (s : Server K SessionRef) (n g : ℕ) (type : MessageType)
    (payload : List UInt8) (players : List (SessionId × Player K SessionRef))
    (registry : List (SessionId × SessionRef)) (channels : Channels) :
    Told s players registry channels (Room.broadcastLoop
      (Server.roomSessions (sessionObjects n g)) type payload players (registry, channels)) := by
  induction players generalizing channels with
  | nil => exact ⟨rfl, .refl s channels, fun _ hlive => hlive, nofun⟩
  | cons entry players ih =>
      unfold Room.broadcastLoop
      split
      · obtain ⟨hregistry, hstays, hlive, hfailed⟩ := ih channels
        refine ⟨hregistry, hstays, hlive, fun session hsession => ?_⟩
        obtain ⟨entry', hentry', hsame⟩ := hfailed session hsession
        exact ⟨entry', List.mem_cons_of_mem entry hentry', hsame⟩
      · next session hgood =>
          have hsession : entry.2.session = some session := (Option.filter_eq_some_iff.mp hgood).1
          have hsent : Stays s s channels
              ((sessionObjects n g).send session type payload channels).2 := by
            refine stays_modifySession (fun _ hseat => hseat) channels _ _ ?_ ?_ ?_
            · intro server
              exact Session.send_id ..
            · intro server
              exact Session.send_dispatched ..
            · intro server hopen
              exact ⟨(Session.send_closed ..).symm.trans hopen, Session.send_socketOpen ..⟩
          have hstill : ∀ other, Live channels other →
              Live ((sessionObjects n g).send session type payload channels).2 other :=
            fun other hother => hother.modifySession _ _ (fun server => Session.send_id ..)
              fun server => Session.send_closed ..
          obtain ⟨hregistry, hstays, hlive, hfailed⟩ :=
            ih ((sessionObjects n g).send session type payload channels).2
          refine ⟨hregistry, hsent.trans hstays,
            fun other hother => hlive other (hstill other hother),
            fun session' hsession' => ?_⟩
          dsimp only at hsession'
          split at hsession'
          · rcases List.mem_cons.mp hsession' with rfl | hbehind
            · exact ⟨entry, List.mem_cons_self, hsession⟩
            · obtain ⟨entry', hentry', hsame⟩ := hfailed session' hbehind
              exact ⟨entry', List.mem_cons_of_mem entry hentry', hsame⟩
          · obtain ⟨entry', hentry', hsame⟩ := hfailed session' hsession'
            exact ⟨entry', List.mem_cons_of_mem entry hentry', hsame⟩

omit [LinearOrder K] in
/-- **Sessions that could not take a message** are closed. -/
theorem Lively.dropFailed (h : Lively s channels) (n g : ℕ) (failed : List SessionRef)
    (hcreated : ∀ session ∈ failed, Created channels session)
    {t : Room K SessionRef × List (SessionId × SessionRef) × Channels}
    (ht : Room.dropFailed (Server.roomSessions (sessionObjects n g)) failed s.room
      (s.sessions, channels) = t) :
    Lively (withRoom s t) t.2.2 ∧ Stays s (withRoom s t) channels t.2.2 := by
  induction failed generalizing s channels with
  | nil =>
      subst ht
      exact ⟨h, .refl s channels⟩
  | cons session failed ih =>
      have hclosed : ∀ (ids : List SessionId) registry,
          (registry = if ((sessionObjects n g).stop session channels).1 then
            s.sessions.filter (fun entry => entry.1 ≠ session.id) else s.sessions) →
          Lively { s with
              room := ids.foldl Room.leave (s.room.leave session.id), sessions := registry }
            ((sessionObjects n g).stop session channels).2 ∧
          Stays s { s with
              room := ids.foldl Room.leave (s.room.leave session.id), sessions := registry }
            channels ((sessionObjects n g).stop session channels).2 := by
        intro ids registry hregistry
        have hseats : ∀ seat ∈ (ids.foldl Room.leave (s.room.leave session.id)).seats,
            seat ∈ s.room.seats ∧ seat.key ≠ session.id := fun seat hseat =>
          seats_leave s.room session.id seat (seats_leaves ids _ seat hseat)
        exact ⟨h.closes n g (hcreated session List.mem_cons_self)
          (fun seat hseat => (hseats seat hseat).1) (fun _ seat hseat => (hseats seat hseat).2)
          hregistry id, stays_stop (fun seat hseat => (hseats seat hseat).1) channels n g session⟩
      have hrest : ∀ {s' : Server K SessionRef},
          Stays s s' channels ((sessionObjects n g).stop session channels).2 →
            ∀ other ∈ failed, Created ((sessionObjects n g).stop session channels).2 other :=
        fun hstays other hother =>
          hstays.persists.created (hcreated other (List.mem_cons_of_mem session hother))
      unfold Room.dropFailed Server.roomSessions at ht
      dsimp only at ht
      split at ht
      · next hcalls =>
          obtain ⟨hfirst, hstays⟩ := hclosed [session.id]
            (s.sessions.filter fun entry => entry.1 ≠ session.id) (by rw [if_pos hcalls])
          obtain ⟨hlast, hstays'⟩ := ih hfirst (hrest hstays) ht
          exact ⟨hlast, hstays.trans hstays'⟩
      · next hcalls =>
          obtain ⟨hfirst, hstays⟩ := hclosed [] s.sessions (by rw [if_neg hcalls])
          obtain ⟨hlast, hstays'⟩ := ih hfirst (hrest hstays) ht
          exact ⟨hlast, hstays.trans hstays'⟩

omit [Field K] [LinearOrder K] in
/-- The room may change if it gives nobody a seat. -/
theorem Lively.withSeats (h : Lively s channels) {r : Room K SessionRef}
    (hseats : ∀ seat ∈ r.seats, seat ∈ s.room.seats) (serverTick : ServerTick) :
    Lively { s with room := r, serverTick := serverTick } channels ∧
      Stays s { s with room := r, serverTick := serverTick } channels channels := by
  have hstays : Stays s { s with room := r, serverTick := serverTick } channels channels :=
    stays_seats channels hseats
  exact ⟨h.persists hstays.persists (fun _ hentry => hentry) id (fun _ _ _ _ hentry _ => hentry)
    fun _ _ _ _ hlive => hlive, hstays⟩

omit [LinearOrder K] in
/-- **A message is broadcast.** -/
theorem Lively.broadcast (h : Lively s channels) (n g : ℕ) (type : MessageType)
    (payload : List UInt8) {t : Room K SessionRef × List (SessionId × SessionRef) × Channels}
    (ht : s.room.broadcast (Server.roomSessions (sessionObjects n g)) type payload
      (s.sessions, channels) = t) :
    Lively (withRoom s t) t.2.2 ∧ Stays s (withRoom s t) channels t.2.2 := by
  obtain ⟨hregistry, hstays, hlive, hfailed⟩ :=
    told_broadcastLoop s n g type payload s.room.players s.sessions channels
  unfold Room.broadcast at ht
  generalize Room.broadcastLoop (Server.roomSessions (sessionObjects n g)) type payload
    s.room.players (s.sessions, channels) = told at hregistry hstays hlive hfailed ht
  obtain ⟨⟨expired, failed⟩, registry, channels'⟩ := told
  dsimp only at hregistry hstays hlive hfailed ht
  rw [hregistry] at ht
  have htold : Lively s channels' := h.persists hstays.persists (fun _ hentry => hentry) id
    (fun _ _ _ _ hentry _ => hentry) fun _ _ _ _ hother => hlive _ hother
  have hcreated : ∀ session ∈ failed, Created channels' session := by
    intro session hsession
    obtain ⟨entry, hentry, hsame⟩ := hfailed session hsession
    obtain ⟨session', hsession', -, hother⟩ :=
      htold.seated (seatOf entry) (Room.mem_seats.mpr ⟨entry, hentry, rfl⟩)
    obtain rfl : session = session' := Option.some.inj (hsame.symm.trans hsession')
    exact hother.created
  obtain ⟨hleft, hstays'⟩ := htold.withSeats (seats_leaves expired s.room) s.serverTick
  obtain ⟨hdropped, hstays''⟩ := hleft.dropFailed n g failed hcreated ht
  exact ⟨hdropped, (hstays.trans hstays').trans hstays''⟩

variable [IsStrictOrderedRing K] [FloorRing K] [HasSqrt K]

/-- **A tick of the server.** -/
theorem Lively.handleTick (h : Lively s channels) (n g : ℕ) (toFloat : K → FloatBits)
    (deltaSeconds : K) :
    Lively (s.handleTick (sessionObjects n g) toFloat deltaSeconds channels).1
        (s.handleTick (sessionObjects n g) toFloat deltaSeconds channels).2 ∧
      Stays s (s.handleTick (sessionObjects n g) toFloat deltaSeconds channels).1 channels
        (s.handleTick (sessionObjects n g) toFloat deltaSeconds channels).2 := by
  unfold Server.handleTick
  split
  · exact ⟨h, .refl s channels⟩
  dsimp only
  generalize (if deltaSeconds > Server.maxServerTickDeltaSeconds then
    Server.maxServerTickDeltaSeconds else deltaSeconds) = capped
  have hseats : ∀ seat ∈ (s.room.tick capped).seats, seat ∈ s.room.seats := by
    rw [(s.room.tick_frame capped).1]
    intro _ hseat
    exact hseat
  obtain ⟨hticked, hstays⟩ := h.withSeats hseats (s.serverTick + 1)
  unfold Server.tickDefaultRoom
  dsimp only
  split
  · exact ⟨hticked, hstays⟩
  · obtain ⟨htold, hstays'⟩ := hticked.broadcast n g .worldStateSnapshot _ rfl
    exact ⟨htold, hstays.trans hstays'⟩

end Ticks

/-! ## Accepting -/

/-- Accepting a connection is about to start a game. -/
structure StartsGame (s : Server K SessionRef) : Prop where
  running : s.stopped = false
  id : s.nextSessionId ≠ 0
  new : ∀ entry ∈ s.sessions, entry.1 ≠ s.nextSessionId
  waiting : s.room.gameState = .waiting
  onePlayer : s.room.players.length = 1
  playerId : s.room.nextPlayerId ≠ 0

instance (s : Server K SessionRef) : Decidable (StartsGame s) :=
  decidable_of_iff (s.stopped = false ∧ s.nextSessionId ≠ 0 ∧
    (∀ entry ∈ s.sessions, entry.1 ≠ s.nextSessionId) ∧ s.room.gameState = .waiting ∧
    s.room.players.length = 1 ∧ s.room.nextPlayerId ≠ 0)
    ⟨fun ⟨hrunning, hid, hnew, hwaiting, hone, hplayer⟩ =>
      ⟨hrunning, hid, hnew, hwaiting, hone, hplayer⟩,
      fun h => ⟨h.running, h.id, h.new, h.waiting, h.onePlayer, h.playerId⟩⟩

section Accepting

variable {s s' : Server K SessionRef} {channels channels' : Channels} {n g : ℕ} {id : SessionId}

/-- **A connection gets a session**, which is closed or registered under an id of its own. -/
theorem Lively.create (h : Lively s channels) (hnone : channels.sessionAt n g = none)
    {server : ServerEnd} (hat : ∀ n' g', channels'.sessionAt n' g' =
      if n' = n ∧ g' = g then some server else channels.sessionAt n' g')
    (hroom : s'.room = s.room) (hrunning : s.stopped = false)
    (hkept : ∀ entry ∈ s.sessions, entry ∈ s'.sessions)
    (hentries : ∀ entry ∈ s'.sessions,
      entry ∈ s.sessions ∨ entry.2 = ⟨n, g, server.session.id⟩)
    (hnew : server.session.closed = false → server.session.socketOpen = true ∧
      (∀ entry ∈ s.sessions, entry.1 ≠ server.session.id) ∧
        ∃ entry ∈ s'.sessions, entry.1 = server.session.id) :
    Lively s' channels' := by
  have hlive : ∀ session, Live channels' session → Live channels session ∨
      session = ⟨n, g, server.session.id⟩ ∧ server.session.closed = false := by
    rintro ⟨n', g', id⟩ ⟨server', hserver', hid, hopen⟩
    rw [hat] at hserver'
    split at hserver'
    · next hsame =>
        obtain ⟨rfl, rfl⟩ : n' = n ∧ g' = g := hsame
        cases hserver'
        obtain rfl : server.session.id = id := hid
        exact Or.inr ⟨rfl, hopen⟩
    · exact Or.inl ⟨server', hserver', hid, hopen⟩
  -- the connection had no session, so those there are keep theirs
  have hcreated : ∀ session, Created channels session → Created channels' session := by
    rintro session ⟨server', hserver', hid⟩
    refine ⟨server', ?_, hid⟩
    rw [hat, if_neg, hserver']
    rintro ⟨hclient, hgeneration⟩
    rw [hclient, hgeneration, hnone] at hserver'
    cases hserver'
  have hstill : ∀ session, Live channels session → Live channels' session := by
    rintro session ⟨server', hserver', hid, hopen⟩
    refine ⟨server', ?_, hid, hopen⟩
    rw [hat, if_neg, hserver']
    rintro ⟨hclient, hgeneration⟩
    rw [hclient, hgeneration, hnone] at hserver'
    cases hserver'
  -- the id of the new session is not that of another live one
  have hother : ∀ session, Live channels session → server.session.closed = false →
      session.id ≠ server.session.id := by
    intro session hsession hopen hid
    obtain ⟨entry, hentry, hentryId⟩ := h.registered hrunning session hsession
    exact (hnew hopen).2.1 entry hentry (hentryId.trans hid)
  constructor
  · intro _ session hsession
    rcases hlive session hsession with hbefore | ⟨rfl, hopen⟩
    · obtain ⟨entry, hentry, hid⟩ := h.registered hrunning session hbefore
      exact ⟨entry, hkept entry hentry, hid⟩
    · exact (hnew hopen).2.2
  · intro session session' hsession hsession' hid
    rcases hlive session hsession with hbefore | ⟨rfl, hopen⟩
    · rcases hlive session' hsession' with hbefore' | ⟨rfl, hopen⟩
      · exact h.unique session session' hbefore hbefore' hid
      · exact absurd hid (hother session hbefore hopen)
    · rcases hlive session' hsession' with hbefore' | ⟨rfl, -⟩
      · exact absurd hid.symm (hother session' hbefore' hopen)
      · rfl
  · intro seat hseat
    rw [hroom] at hseat
    obtain ⟨session, hsession, hid, hbefore⟩ := h.seated seat hseat
    exact ⟨session, hsession, hid, hstill session hbefore⟩
  · intro entry hentry
    rcases hentries entry hentry with hbefore | hnewEntry
    · exact hcreated entry.2 (h.created entry hbefore)
    · rw [hnewEntry]
      exact ⟨server, by rw [hat, if_pos ⟨rfl, rfl⟩], rfl⟩
  · intro n' g' server' hserver' hopen
    rw [hat] at hserver'
    split at hserver'
    · cases hserver'
      exact (hnew hopen).1
    · exact h.sockets n' g' server' hserver' hopen

/-- Seats with the same keys and sessions, and a new one with a live session. -/
theorem Lively.seats (h : Lively s channels) (hsessions : s'.sessions = s.sessions)
    (hstopped : s'.stopped = s.stopped)
    (hseats : ∀ seat ∈ s'.room.seats,
      (∃ old ∈ s.room.seats, old.key = seat.key ∧ old.session = seat.session) ∨
        ∃ session, seat.session = some session ∧ session.id = seat.key ∧ Live channels session) :
    Lively s' channels where
  registered hrunning session hlive := by
    rw [hsessions]
    exact h.registered (hstopped ▸ hrunning) session hlive
  unique := h.unique
  seated seat hseat := by
    rcases hseats seat hseat with ⟨old, hold, hkey, hsame⟩ | hnew
    · obtain ⟨session, hsession, hid, hlive⟩ := h.seated old hold
      exact ⟨session, hsame ▸ hsession, hkey ▸ hid, hlive⟩
    · exact hnew
  created entry hentry := h.created entry (hsessions ▸ hentry)
  sockets := h.sockets

/-- Changes of a session that do not close it. -/
theorem Lively.modifySession (h : Lively s channels) (n g : ℕ) {f : ServerEnd → ServerEnd}
    (hid : ∀ server, (f server).session.id = server.session.id)
    (hdispatched : ∀ server, (f server).session.dispatched = server.session.dispatched)
    (hclosed : ∀ server, (f server).session.closed = server.session.closed)
    (hsocket : ∀ server, (f server).session.socketOpen = server.session.socketOpen) :
    Lively s (channels.modifySession n g f) ∧
      Stays s s channels (channels.modifySession n g f) := by
  have hstays : Stays s s channels (channels.modifySession n g f) :=
    stays_modifySession (fun _ hseat => hseat) channels n g hid hdispatched
      fun server hopen => ⟨(hclosed server).symm.trans hopen, hsocket server⟩
  exact ⟨h.persists hstays.persists (fun _ hentry => hentry) (fun hstopped => hstopped)
    (fun _ _ _ _ hentry _ => hentry)
    fun _ _ _ _ hlive => hlive.modifySession n g hid hclosed, hstays⟩

/-- What accepting the connection of generation `g` of client `n` does to seats and sessions. -/
structure Welcomes (n g : ℕ) (s s' : Server K SessionRef) [Field K]
    (channels channels' : Channels) :
    Prop where
  lively : Lively s' channels'
  seats : ∀ seat ∈ s'.room.seats, seat ∈ s.room.seats ∨
    (∃ id, seat = Room.newSeat s.room (⟨n, g, id⟩ : SessionRef)) ∨
      StartsGame s ∧ ∃ old ∈ s.room.seats, seat = old.cleared
  dispatched : ∀ n g,
    Link.dispatched ((channels' n).links g) = Link.dispatched ((channels n).links g)

variable [Field K] [LinearOrder K] [IsStrictOrderedRing K]

omit [LinearOrder K] [IsStrictOrderedRing K] in
/-- A new session has dispatched nothing, like no session. -/
theorem dispatched_create (hnone : channels.sessionAt n g = none) {server : ServerEnd}
    (hat : ∀ n' g', channels'.sessionAt n' g' =
      if n' = n ∧ g' = g then some server else channels.sessionAt n' g')
    (hnothing : server.session.dispatched = []) (n' g' : ℕ) :
    Link.dispatched ((channels' n').links g') = Link.dispatched ((channels n').links g') := by
  have hsession := hat n' g'
  unfold Channels.sessionAt at hsession hnone
  unfold Link.dispatched
  rw [hsession]
  split
  · next hsame =>
      rw [hsame.1, hsame.2, hnone]
      exact hnothing
  · rfl

omit [LinearOrder K] [IsStrictOrderedRing K] in
/-- The session enters, and starts to read. -/
theorem Lively.entered (h : Lively s channels) (hlive : Live channels ⟨n, g, id⟩)
    {r' : Room K SessionRef} (hentered : s.room.Entered (⟨n, g, id⟩ : SessionRef) r')
    (playerId : PlayerId) (payload : List UInt8) :
    Lively (s.recordEntry ⟨n, g, id⟩ playerId r')
        ((sessionObjects n g).start ⟨n, g, id⟩ (channels.modifySession n g fun server =>
          { server with session := (server.session.send .playerIdentity payload).2 })) ∧
      ∀ n' g', Link.dispatched (((sessionObjects n g).start ⟨n, g, id⟩
          (channels.modifySession n g fun server =>
            { server with
              session := (server.session.send .playerIdentity payload).2 }) n').links g') =
        Link.dispatched ((channels n').links g') := by
  have hnew : ∃ session, (s.room.newSeat (⟨n, g, id⟩ : SessionRef)).session = some session ∧
      session.id = (s.room.newSeat (⟨n, g, id⟩ : SessionRef)).key ∧ Live channels session :=
    ⟨⟨n, g, id⟩, rfl, rfl, hlive⟩
  have hseats : Lively (s.recordEntry ⟨n, g, id⟩ playerId r') channels := by
    refine h.seats rfl rfl ?_
    intro seat hseat
    rw [show (s.recordEntry (⟨n, g, id⟩ : SessionRef) playerId r').room = r' from rfl] at hseat
    rcases hentered.mem_seats hseat with rfl | hold | ⟨-, old, hold, rfl⟩
    · exact Or.inr hnew
    · exact Or.inl ⟨seat, hold, rfl, rfl⟩
    · exact Or.inl ⟨old, hold, rfl, rfl⟩
  obtain ⟨htold, hstays⟩ := hseats.modifySession n g
    (f := fun server =>
      { server with session := (server.session.send .playerIdentity payload).2 })
    (fun server => Session.send_id ..) (fun server => Session.send_dispatched ..)
    (fun server => Session.send_closed ..) (fun server => Session.send_socketOpen ..)
  obtain ⟨hstarted, hstays'⟩ := htold.modifySession n g
    (f := fun server => ⟨server.session.start, true⟩)
    (fun server => server.session.start_frame.1) (fun server => server.session.start_frame.2.2.2)
    (fun server => server.session.start_frame.2.1) (fun server => server.session.start_frame.2.2.1)
  exact ⟨hstarted, fun n' g' => (hstays'.dispatched n' g').trans (hstays.dispatched n' g')⟩

omit [LinearOrder K] [IsStrictOrderedRing K] in
/-- The new session is closed if its id is taken. -/
theorem Lively.dropped (h : Lively s channels) {link : Link}
    (hlink : (channels n).links g = some link) (hnone : channels.sessionAt n g = none)
    (hrunning : s.stopped = false) :
    Welcomes n g s { s with nextSessionId := s.nextSessionId + 1 } channels
      ((sessionObjects n g).destroy ⟨n, g, s.nextSessionId⟩
        (channels.setSession n g { session := { id := s.nextSessionId } })) := by
  have hat := Channels.sessionAt_setSession hlink { session := { id := s.nextSessionId } }
  have hclosed : ∀ n' g', ((sessionObjects n g).destroy ⟨n, g, s.nextSessionId⟩
      (channels.setSession n g { session := { id := s.nextSessionId } })).sessionAt n' g' =
        if n' = n ∧ g' = g then some { session :=
          { id := s.nextSessionId, closed := true, socketOpen := false } }
        else channels.sessionAt n' g' := by
    intro n' g'
    show (Channels.modifySession _ n g _).sessionAt n' g' = _
    rw [Channels.sessionAt_modifySession, hat n g, hat n' g', if_pos (⟨rfl, rfl⟩ : n = n ∧ g = g)]
    split
    · rfl
    · rfl
  refine ⟨h.create hnone hclosed rfl hrunning (fun _ hentry => hentry)
    (fun _ hentry => Or.inl hentry) nofun, fun seat hseat => Or.inl hseat, ?_⟩
  exact dispatched_create hnone hclosed rfl

omit [Field K] [LinearOrder K] [IsStrictOrderedRing K] in
/-- The new session is registered if its id is new. -/
theorem Lively.registers (h : Lively s channels) {link : Link}
    (hlink : (channels n).links g = some link) (hnone : channels.sessionAt n g = none)
    (hrunning : s.stopped = false) (hfresh : ∀ entry ∈ s.sessions, entry.1 ≠ s.nextSessionId) :
    Lively { s with
      nextSessionId := s.nextSessionId + 1
      sessions := s.sessions ++ [(s.nextSessionId, (⟨n, g, s.nextSessionId⟩ : SessionRef))] }
      (channels.setSession n g { session := { id := s.nextSessionId } }) := by
  have hat := Channels.sessionAt_setSession hlink { session := { id := s.nextSessionId } }
  refine h.create hnone hat rfl hrunning (fun _ hentry => List.mem_append_left _ hentry) ?_
    fun _ => ⟨rfl, hfresh, _, List.mem_append_right _ (List.mem_singleton_self _), rfl⟩
  intro entry hentry
  rcases List.mem_append.mp hentry with hold | hlast
  · exact Or.inl hold
  · rw [List.mem_singleton.mp hlast]
    exact Or.inr rfl

/-- **The server accepts a connection.** -/
theorem Lively.handleAccept (h : Lively s channels) (hseated : s.Seated) {link : Link}
    (hlink : (channels n).links g = some link) (hnew : link.serverEnd = none) :
    Welcomes n g s (s.handleAccept (sessionObjects n g) channels).1 channels
      (s.handleAccept (sessionObjects n g) channels).2 := by
  have hnone : channels.sessionAt n g = none := by
    rw [Channels.sessionAt, hlink]
    exact hnew
  have hat := Channels.sessionAt_setSession hlink { session := { id := s.nextSessionId } }
  rcases handleAccept_cases s channels n g with
    ⟨-, hnothing⟩ | ⟨hrunning, ⟨-, hdropped⟩ | ⟨hfresh, hentering⟩⟩
  · rw [hnothing]
    exact ⟨h, fun seat hseat => Or.inl hseat, fun _ _ => rfl⟩
  · rw [hdropped]
    exact h.dropped hlink hnone hrunning
  · have hregistered := h.registers hlink hnone hrunning hfresh
    have hserver : (channels.setSession n g
        { session := { id := s.nextSessionId } }).sessionAt n g =
          some { session := { id := s.nextSessionId } } := by
      rw [hat, if_pos ⟨rfl, rfl⟩]
    have hlive : Live (channels.setSession n g { session := { id := s.nextSessionId } })
        ⟨n, g, s.nextSessionId⟩ := ⟨_, hserver, rfl, rfl⟩
    have hnothing := dispatched_create hnone hat rfl
    rcases enterDefaultRoom_cases (s := { s with
        nextSessionId := s.nextSessionId + 1
        sessions := s.sessions ++ [(s.nextSessionId, (⟨n, g, s.nextSessionId⟩ : SessionRef))] })
      (hseated.of_eq rfl rfl) hserver with
      ⟨playerId, -, hrefused⟩ | ⟨r', -, hentered, hsuccess⟩
    · rw [hentering _ hrefused.symm]
      have hafter : Lively { s with
          nextSessionId := s.nextSessionId + 1
          sessions := s.sessions ++ [(s.nextSessionId, (⟨n, g, s.nextSessionId⟩ : SessionRef))]
          room := { s.room with nextPlayerId := playerId } }
          (channels.setSession n g { session := { id := s.nextSessionId } }) :=
        hregistered.seats rfl rfl fun seat hseat => Or.inl ⟨seat, hseat, rfl, rfl⟩
      obtain ⟨hstopped, hstays⟩ := hafter.stopSession n g hlive.created
      exact ⟨hstopped, fun seat hseat => Or.inl (hstays.seats seat hseat),
        fun n' g' => (hstays.dispatched n' g').trans (hnothing n' g')⟩
    · rw [hentering _ hsuccess.symm]
      obtain ⟨hlively, hdispatched⟩ := hregistered.entered hlive hentered s.room.nextPlayerId
        (identityMessage s.room.nextPlayerId).payload
      refine ⟨hlively, fun seat hseat => ?_, fun n' g' =>
        (hdispatched n' g').trans (hnothing n' g')⟩
      have hafter : seat ∈ r'.seats := hseat
      rcases hentered.mem_seats hafter with hlast | hold | ⟨hwaiting, old, hold, rfl⟩
      · exact Or.inr (Or.inl ⟨s.nextSessionId, hlast⟩)
      · exact Or.inl hold
      · refine Or.inr (Or.inr ⟨⟨hrunning, hentered.admits.id, hfresh, hwaiting, ?_,
          hentered.admits.playerId⟩, old, hold, rfl⟩)
        have hcapacity : s.room.players.length < 2 := hentered.admits.capacity
        have hsome : 0 < s.room.players.length := by
          rw [← seats_length]
          exact List.length_pos_of_mem hold
        omega

end Accepting

end NetworkArena.System
