/-
# NetworkArena.System.Enrolled -- the registry knows every open session

While the server runs, an open session is registered under its id as the very object it is, even
when session ids wrap around and are given again. So closing whatever is registered closes every
open session, and after `Stop` there is none.
-/
import NetworkArena.System.EveryEnd

namespace NetworkArena.System

open NetworkArena.Foundation
open NetworkArena.Shared
open NetworkArena.Server
open NetworkArena.Client

variable {K : Type}

/-! ## The registry -/

/-- Ids are registered once. -/
def OncePerId (sessions : List (SessionId × SessionRef)) : Prop :=
  ∀ entry ∈ sessions, ∀ entry' ∈ sessions, entry.1 = entry'.1 → entry = entry'

/-- Every open session is registered, as itself. A stopped server has none. -/
structure Enrolled (s : Server K SessionRef) (channels : Channels) : Prop where
  once : OncePerId s.sessions
  running : s.stopped = false → ∀ session, Live channels session →
    (session.id, session) ∈ s.sessions
  stopped : s.stopped = true → ∀ session, ¬ Live channels session

section Enrolled

variable {s s' : Server K SessionRef} {channels channels' : Channels} {n g : ℕ}

/-- No session is opened, and none is registered. That open sessions stay registered under their ids
is known; so they stay registered as themselves. -/
theorem Enrolled.persists (h : Enrolled s channels) (hlively : Lively s' channels')
    (hlive : ∀ session, Live channels' session → Live channels session)
    (hentries : ∀ entry ∈ s'.sessions, entry ∈ s.sessions)
    (hstopped : s'.stopped = s.stopped) : Enrolled s' channels' where
  once entry hentry entry' hentry' :=
    h.once entry (hentries entry hentry) entry' (hentries entry' hentry')
  running hrunning session hsession := by
    obtain ⟨entry, hentry, hid⟩ := hlively.registered hrunning session hsession
    have hown := h.running (hstopped.symm.trans hrunning) session (hlive session hsession)
    rwa [h.once entry (hentries entry hentry) _ hown hid] at hentry
  stopped hstop session hsession :=
    h.stopped (hstopped.symm.trans hstop) session (hlive session hsession)

/-- A new session is registered under a new id. -/
theorem Enrolled.registers (h : Enrolled s channels) (hrunning : s.stopped = false)
    (session : SessionRef) (hfresh : ∀ entry ∈ s.sessions, entry.1 ≠ session.id)
    (hsessions : s'.sessions = s.sessions ++ [(session.id, session)])
    (hstopped : s'.stopped = false)
    (hlive : ∀ other, Live channels' other → Live channels other ∨ other = session) :
    Enrolled s' channels' where
  once entry hentry entry' hentry' hsame := by
    rw [hsessions] at hentry hentry'
    rcases List.mem_append.mp hentry with hold | hnew
    · rcases List.mem_append.mp hentry' with hold' | hnew'
      · exact h.once entry hold entry' hold' hsame
      · rw [List.mem_singleton.mp hnew'] at hsame
        exact absurd hsame (hfresh entry hold)
    · rw [List.mem_singleton.mp hnew] at hsame ⊢
      rcases List.mem_append.mp hentry' with hold' | hnew'
      · exact absurd hsame.symm (hfresh entry' hold')
      · exact (List.mem_singleton.mp hnew').symm
  running _ other hother := by
    rw [hsessions]
    rcases hlive other hother with hbefore | rfl
    · exact List.mem_append_left _ (h.running hrunning other hbefore)
    · exact List.mem_append_right _ (List.mem_singleton_self _)
  stopped hstop := by
    rw [hstopped] at hstop
    cases hstop

/-- Stopping sessions only takes entries off the registry. -/
theorem entries_stopSession [Field K] (s : Server K SessionRef) (n g : ℕ) (session : SessionRef)
    (channels : Channels) :
    ∀ entry ∈ (s.stopSession (sessionObjects n g) session channels).1.sessions,
      entry ∈ s.sessions := by
  unfold Server.stopSession
  dsimp only
  split
  · intro entry hentry
    exact List.mem_of_mem_filter hentry
  · intro entry hentry
    exact hentry

theorem stopped_stopSession [Field K] (s : Server K SessionRef) (n g : ℕ) (session : SessionRef)
    (channels : Channels) :
    (s.stopSession (sessionObjects n g) session channels).1.stopped = s.stopped := by
  unfold Server.stopSession
  dsimp only
  split
  · rfl
  · rfl

/-- What `CloseAll` leaves. -/
structure ClosedAll (entries : List (SessionId × SessionRef)) (s : Server K SessionRef)
    (channels : Channels) (result : Server K SessionRef × Channels) : Prop where
  sessions : result.1.sessions = []
  stopped : result.1.stopped = s.stopped
  closes : ∀ session, Live result.2 session →
    Live channels session ∧ ∀ entry ∈ entries, entry.2 ≠ session

theorem closeAll_closes [Field K] (n g : ℕ) (entries : List (SessionId × SessionRef))
    (s : Server K SessionRef) (channels : Channels) :
    ClosedAll entries s channels (s.closeAll (sessionObjects n g) entries channels) := by
  induction entries generalizing s channels with
  | nil => exact ⟨rfl, rfl, fun _ hlive => ⟨hlive, nofun⟩⟩
  | cons entry entries ih =>
      obtain ⟨hsessions, hstopped, hcloses⟩ :=
        ih (s.stopSession (sessionObjects n g) entry.2 channels).1
          (s.stopSession (sessionObjects n g) entry.2 channels).2
      refine ⟨hsessions, hstopped.trans (stopped_stopSession ..), fun session hlive => ?_⟩
      obtain ⟨hfirst, hothers⟩ := hcloses session hlive
      refine ⟨(stays_stop (s := s) (fun _ (hseat : _ ∈ s.room.seats) => hseat) channels n g
        entry.2).persists.live hfirst, fun other hother hsame => ?_⟩
      rcases List.mem_cons.mp hother with rfl | hrest
      · refine not_live_stop n g hfirst ?_
        rw [hsame]
        exact ⟨rfl, rfl⟩
      · exact hothers other hrest hsame

theorem stopped_stop [Field K] (s : Server K SessionRef) (n g : ℕ) (channels : Channels) :
    (s.stop (sessionObjects n g) channels).1.stopped = true := by
  unfold Server.stop
  split
  · next hstopped => exact hstopped
  · exact (closeAll_closes n g s.sessions { s with stopped := true } channels).stopped

/-- **`Stop` closes every open session**, as all of them are registered. -/
theorem Enrolled.stop [Field K] (h : Enrolled s channels) (n g : ℕ) :
    Enrolled (s.stop (sessionObjects n g) channels).1 (s.stop (sessionObjects n g) channels).2 := by
  unfold Server.stop
  split
  · exact h
  next hrunning =>
  obtain ⟨hsessions, hstopped, hcloses⟩ :=
    closeAll_closes n g s.sessions { s with stopped := true } channels
  have hnone : ∀ session, ¬ Live ({ s with stopped := true }.closeAll (sessionObjects n g)
      s.sessions channels).2 session := by
    intro session hlive
    obtain ⟨hbefore, hother⟩ := hcloses session hlive
    exact hother _ (h.running (by simpa using hrunning) session hbefore) rfl
  refine ⟨?_, fun _ session hlive => absurd hlive (hnone session), fun _ => hnone⟩
  intro entry hentry
  rw [hsessions] at hentry
  cases hentry

theorem entries_dropFailed [Field K] (n g : ℕ) (failed : List SessionRef)
    (r : Room K SessionRef) (registry : List (SessionId × SessionRef)) (channels : Channels) :
    ∀ entry ∈ (Room.dropFailed (Server.roomSessions (sessionObjects n g)) failed r
      (registry, channels)).2.1, entry ∈ registry := by
  induction failed generalizing r registry channels with
  | nil => exact fun entry hentry => hentry
  | cons session failed ih =>
      unfold Room.dropFailed Server.roomSessions
      dsimp only
      split
      · intro entry hentry
        exact List.mem_of_mem_filter (ih _ _ _ entry hentry)
      · intro entry hentry
        exact ih _ _ _ entry hentry

theorem entries_broadcast [Field K] (s : Server K SessionRef) (n g : ℕ) (type : MessageType)
    (payload : List UInt8) (channels : Channels) :
    ∀ entry ∈ (s.room.broadcast (Server.roomSessions (sessionObjects n g)) type payload
      (s.sessions, channels)).2.1, entry ∈ s.sessions := by
  have htold := (told_broadcastLoop s n g type payload s.room.players s.sessions channels).registry
  unfold Room.broadcast
  generalize Room.broadcastLoop (Server.roomSessions (sessionObjects n g)) type payload
    s.room.players (s.sessions, channels) = told at htold
  obtain ⟨⟨expired, failed⟩, registry, channels'⟩ := told
  dsimp only at htold ⊢
  rw [htold]
  exact entries_dropFailed n g failed _ _ _

variable [Field K] [LinearOrder K] [IsStrictOrderedRing K] [FloorRing K] [HasSqrt K]

theorem entries_handleTick (s : Server K SessionRef) (n g : ℕ) (toFloat : K → FloatBits)
    (deltaSeconds : K) (channels : Channels) :
    ∀ entry ∈ (s.handleTick (sessionObjects n g) toFloat deltaSeconds channels).1.sessions,
      entry ∈ s.sessions := by
  unfold Server.handleTick
  split
  · intro entry hentry
    exact hentry
  dsimp only
  generalize (if deltaSeconds > Server.maxServerTickDeltaSeconds then
    Server.maxServerTickDeltaSeconds else deltaSeconds) = capped
  unfold Server.tickDefaultRoom
  dsimp only
  split
  · intro entry hentry
    exact hentry
  · exact entries_broadcast { s with room := s.room.tick capped } n g _ _ _

omit [LinearOrder K] [IsStrictOrderedRing K] [FloorRing K] [HasSqrt K] in
theorem stopped_enterDefaultRoom (s : Server K SessionRef) (n g : ℕ) (session : SessionRef)
    (channels : Channels) :
    (s.enterDefaultRoom (sessionObjects n g) session channels).2.1.stopped = s.stopped := by
  unfold Server.enterDefaultRoom
  dsimp only
  split
  · rfl
  · split
    · rfl
    · split
      · rfl
      · rfl

omit [LinearOrder K] [IsStrictOrderedRing K] [FloorRing K] [HasSqrt K] in
theorem stopped_handleAccept (s : Server K SessionRef) (n g : ℕ) (channels : Channels) :
    (s.handleAccept (sessionObjects n g) channels).1.stopped = s.stopped := by
  unfold Server.handleAccept
  split
  · rfl
  · dsimp only
    split
    · rfl
    · split
      · exact stopped_enterDefaultRoom ..
      · exact (stopped_stopSession ..).trans (stopped_enterDefaultRoom ..)

theorem stopped_handleTick (s : Server K SessionRef) (n g : ℕ) (toFloat : K → FloatBits)
    (deltaSeconds : K) (channels : Channels) :
    (s.handleTick (sessionObjects n g) toFloat deltaSeconds channels).1.stopped = s.stopped := by
  unfold Server.handleTick
  split
  · rfl
  dsimp only
  generalize (if deltaSeconds > Server.maxServerTickDeltaSeconds then
    Server.maxServerTickDeltaSeconds else deltaSeconds) = capped
  unfold Server.tickDefaultRoom
  dsimp only
  split
  · rfl
  · rfl

omit [FloorRing K] [HasSqrt K] in
/-- **The server accepts a connection**, and registers its session. -/
theorem Enrolled.handleAccept (h : Enrolled s channels) (hlively : Lively s channels)
    (hseated : s.Seated) {link : Link} (hlink : (channels n).links g = some link)
    (hnew : link.serverEnd = none) :
    Enrolled (s.handleAccept (sessionObjects n g) channels).1
      (s.handleAccept (sessionObjects n g) channels).2 := by
  have hafter := (hlively.handleAccept hseated hlink hnew).lively
  have hat := Channels.sessionAt_setSession hlink { session := { id := s.nextSessionId } }
  rcases handleAccept_cases s channels n g with
    ⟨-, hnothing⟩ | ⟨hrunning, ⟨-, hdropped⟩ | ⟨hfresh, hentering⟩⟩
  · rw [hnothing]
    exact h
  · rw [hdropped] at hafter ⊢
    refine h.persists hafter ?_ (fun _ hentry => hentry) rfl
    -- the new session is closed at once
    rintro other ⟨server, hserver, hid, hopen⟩
    change (Channels.modifySession _ n g _).sessionAt other.client other.generation = _ at hserver
    rw [Channels.sessionAt_modifySession, hat n g, hat,
      if_pos (⟨rfl, rfl⟩ : n = n ∧ g = g)] at hserver
    split at hserver
    · cases hserver
      cases hopen
    · exact ⟨server, hserver, hid, hopen⟩
  · have hregistered : Enrolled { s with
        nextSessionId := s.nextSessionId + 1
        sessions := s.sessions ++ [(s.nextSessionId, (⟨n, g, s.nextSessionId⟩ : SessionRef))] }
        (channels.setSession n g { session := { id := s.nextSessionId } }) := by
      refine h.registers hrunning ⟨n, g, s.nextSessionId⟩ hfresh rfl hrunning ?_
      rintro ⟨n', g', id⟩ ⟨server, hserver, hid, hopen⟩
      rw [hat] at hserver
      split at hserver
      · next hsame =>
          obtain ⟨rfl, rfl⟩ : n' = n ∧ g' = g := hsame
          cases hserver
          obtain rfl : s.nextSessionId = id := hid
          exact Or.inr rfl
      · exact Or.inl ⟨server, hserver, hid, hopen⟩
    have hserver : (channels.setSession n g
        { session := { id := s.nextSessionId } }).sessionAt n g =
          some { session := { id := s.nextSessionId } } := by
      rw [hat, if_pos ⟨rfl, rfl⟩]
    rcases enterDefaultRoom_cases (s := { s with
        nextSessionId := s.nextSessionId + 1
        sessions := s.sessions ++ [(s.nextSessionId, (⟨n, g, s.nextSessionId⟩ : SessionRef))] })
      (hseated.of_eq rfl rfl) hserver with
      ⟨playerId, -, hrefused⟩ | ⟨r', -, -, hsuccess⟩
    · rw [hentering _ hrefused.symm] at hafter ⊢
      exact hregistered.persists hafter
        (fun _ => (stays_stop (s := s) (fun _ hseat => hseat) _ n g _).persists.live)
        (entries_stopSession _ n g _ _) (stopped_stopSession _ n g _ _)
    · rw [hentering _ hsuccess.symm] at hafter ⊢
      have hseats : ∀ seat ∈ s.room.seats, seat ∈ s.room.seats := fun _ hseat => hseat
      have hsent := stays_modifySession hseats
        (channels.setSession n g { session := { id := s.nextSessionId } }) n g
        (f := fun server => { server with session := (server.session.send .playerIdentity
          (identityMessage s.room.nextPlayerId).payload).2 })
        (fun server => Session.send_id ..) (fun server => Session.send_dispatched ..)
        fun server hopen => ⟨(Session.send_closed ..).symm.trans hopen, Session.send_socketOpen ..⟩
      have hstarted := hsent.trans (stays_modifySession hseats _ n g
        (f := fun server => ⟨server.session.start, true⟩)
        (fun server => server.session.start_frame.1)
        (fun server => server.session.start_frame.2.2.2)
        fun server hopen =>
          ⟨server.session.start_frame.2.1.symm.trans hopen, server.session.start_frame.2.2.1⟩)
      exact hregistered.persists hafter (fun _ => hstarted.persists.live)
        (fun _ hentry => hentry) rfl

end Enrolled

/-! ## Every state -/

section Reachable

theorem enrolled_initial [Field K] :
    Enrolled (Arena.initial : Arena K).server (Arena.initial : Arena K).channels := by
  refine ⟨nofun, ?_, nofun⟩
  rintro - session ⟨server, hserver, -⟩
  cases hserver

variable [Field K] [LinearOrder K] [IsStrictOrderedRing K] [FloorRing K] [HasSqrt K]
  {clock : ℕ → ℕ → UInt64} {toFloat : K → FloatBits} {t t' : Arena K} {event : ArenaEvent K}

/-- **Every step** keeps the open sessions registered. -/
theorem Arena.Reachable.enrolled (h : t.Reachable clock)
    (hclock : ∀ n i j, i ≤ j → clock n i ≤ clock n j)
    (hticks : event.isTick = true → t.server.serverTick.toNat + 1 < 2 ^ 64)
    (hstep : Arena.step clock toFloat t event = some t')
    (henrolled : Enrolled t.server t.channels) :
    Enrolled t'.server t'.channels := by
  have hlively := (h.step hclock hticks hstep).1.lively
  have hclient : ∀ {channels : Channels},
      (∀ n g, channels.sessionAt n g = t.channels.sessionAt n g) →
        Lively t.server channels → Enrolled t.server channels := fun hat hlively =>
    henrolled.persists hlively (by
      rintro session ⟨server, hserver, hlive⟩
      exact ⟨server, (hat _ _).symm.trans hserver, hlive⟩) (fun _ hentry => hentry) rfl
  cases Arena.step_cases hstep with
  | client n event hevent hmoved =>
      exact hclient (Arena.sessionAt_setChannel (Channel.clientStep_serverEnd hmoved)) hlively
  | established n g hnew =>
      exact hclient (Arena.sessionAt_setChannel (Channel.established_serverEnd hnew)) hlively
  | server n g event hevent hserver =>
      obtain ⟨server, server', hhandled⟩ := h.steers hevent hserver
      refine henrolled.persists hlively ?_ hhandled.holds.entries hhandled.holds.stopped
      rintro session ⟨server₁, hserver₁, hid, hopen⟩
      rw [hhandled.after] at hserver₁
      split at hserver₁
      · next hsame =>
          cases hserver₁
          refine ⟨server, ?_, hhandled.holds.id.symm.trans hid, (hhandled.holds.opened hopen).1⟩
          rw [hsame.1, hsame.2]
          exact hhandled.before
      · exact ⟨server₁, hserver₁, hid, hopen⟩
  | update n keys => exact hclient (Arena.sessionAt_setChannel fun _ => rfl) hlively
  | shutdown n => exact hclient (Arena.sessionAt_setChannel fun _ => rfl) hlively
  | accept n g hlink hnew =>
      exact henrolled.handleAccept h.lively h.sound.world.seated hlink hnew
  | tick deltaSeconds =>
      exact henrolled.persists hlively
        (fun _ => (h.lively.handleTick 0 0 toFloat deltaSeconds).2.persists.live)
        (entries_handleTick t.server 0 0 toFloat deltaSeconds t.channels)
        (stopped_handleTick ..)
  | stop => exact henrolled.stop 0 0

/-- **A stopped server** stays stopped. -/
theorem Arena.Reachable.stopped (h : t.Reachable clock)
    (hstep : Arena.step clock toFloat t event = some t') (hstopped : t.server.stopped = true) :
    t'.server.stopped = true := by
  cases Arena.step_cases hstep with
  | client n event hevent hmoved => exact hstopped
  | established n g hnew => exact hstopped
  | server n g event hevent hserver =>
      obtain ⟨server, server', hhandled⟩ := h.steers hevent hserver
      exact hhandled.holds.stopped.trans hstopped
  | update n keys => exact hstopped
  | shutdown n => exact hstopped
  | accept n g hlink hnew => exact (stopped_handleAccept ..).trans hstopped
  | tick deltaSeconds => exact (stopped_handleTick ..).trans hstopped
  | stop => exact stopped_stop ..

end Reachable

end NetworkArena.System
