/-
# NetworkArena.System.Serving -- the sessions of honest clients

A session of an honest client is only asked what it serves: the bytes that reach it are those of
pings and valid inputs, in the order in which the client sent them. So it never finds a violation,
and all it adds to what it has sent are pongs with timestamps of the client. Its handlers act on the
server through the callbacks, which let players leave and change their inputs.
-/
import NetworkArena.System.ServerSide

namespace NetworkArena.System

open NetworkArena.Foundation
open NetworkArena.Shared
open NetworkArena.Server
open NetworkArena.Client

variable {K : Type} [Field K] [LinearOrder K]

/-! ## One session at work -/

/-- A session in the middle of a handler, next to the server it has made of `s₀`. -/
structure AtWork (clock : ℕ → UInt64) (clockReads : ℕ) (s₀ : Server K SessionRef)
    (assigned : Option (PlayerId × PlayerSide)) (started : Bool) (id : SessionId)
    (session : Session) (s : Server K SessionRef) : Prop where
  seated : s.Seated
  later : Later s₀ s
  unchanged : s.assigned = s₀.assigned
  serverTick : s.serverTick = s₀.serverTick
  id : session.id = id
  honest : HonestEnd clock clockReads s assigned ⟨session, started⟩

section AtWork

variable {clock : ℕ → UInt64} {clockReads : ℕ} {s₀ s : Server K SessionRef}
  {assigned : Option (PlayerId × PlayerSide)} {started : Bool} {id : SessionId}
  {session session' : Session}

theorem AtWork.of_eq (h : AtWork clock clockReads s₀ assigned started id session s)
    (hid : session'.id = session.id) (hviolations : session'.violations = session.violations)
    (haccepted : session'.accepted = session.accepted) :
    AtWork clock clockReads s₀ assigned started id session' s :=
  ⟨h.seated, h.later, h.unchanged, h.serverTick, hid.trans h.id,
    h.honest.of_eq hviolations haccepted rfl⟩

/-- The callbacks may change the server. -/
theorem AtWork.server (h : AtWork clock clockReads s₀ assigned started id session s)
    {s' : Server K SessionRef} (hseated : s'.Seated) (hlater : Later s s')
    (hassigned : s'.assigned = s.assigned) (htick : s'.serverTick = s.serverTick) :
    AtWork clock clockReads s₀ assigned started id session s' :=
  ⟨hseated, h.later.trans hlater, hassigned.trans h.unchanged, htick.trans h.serverTick, h.id,
    h.honest.later hlater (Nat.le_refl _)⟩

variable [HasSqrt K]

theorem atWork_keeps : Session.Keeps (Server.callbacks : SessionCallbacks (Server K SessionRef))
    (AtWork clock clockReads s₀ assigned started id) where
  report _ hdiagnostic h := h.of_eq rfl (Session.violations_report hdiagnostic) rfl
  queues _ _ _ _ _ h := h.of_eq rfl rfl rfl
  close {session s} h := by
    unfold Session.close
    split
    · exact h
    dsimp only
    split
    · exact h.of_eq rfl rfl rfl
    · have hclosed : AtWork clock clockReads s₀ assigned started id { session with
          closed := true, pendingSendBytes := 0, socketOpen := false } s := h.of_eq rfl rfl rfl
      exact hclosed.server (h.seated.handleSessionClosed _) (later_handleSessionClosed s _) rfl rfl

/-- Serving a request does not close a session. -/
theorem dispatchOn_request_closed {m : Message} (hm : NetworkClient.IsRequest clock clockReads m)
    (session : Session) (s : Server K SessionRef) :
    (Session.dispatchOn Server.callbacks m (session, s)).2.1.closed = session.closed := by
  cases hm with
  | ping hk =>
      rw [Session.dispatchOn_ping]
      exact Session.send_closed ..
  | playerInput hinput =>
      rw [Session.dispatchOn_playerInput Server.callbacks session s hinput (by rfl)]
      rfl

variable [IsStrictOrderedRing K]

/-- **Serving a request** of an honest client. -/
theorem AtWork.dispatch (h : AtWork clock clockReads s₀ assigned started id session s)
    (hplayer : assigned ≠ none) {m : Message} (hm : NetworkClient.IsRequest clock clockReads m) :
    AtWork clock clockReads s₀ assigned started id
      (Session.dispatchOn Server.callbacks m (session, s)).2.1
      (Session.dispatchOn Server.callbacks m (session, s)).2.2 := by
  have hlogged : AtWork clock clockReads s₀ assigned started id (session.logged m) s :=
    h.of_eq rfl (Session.violations_report rfl) rfl
  cases hm with
  | @ping k hk =>
      rw [Session.dispatchOn_ping]
      refine ⟨hlogged.seated, hlogged.later, hlogged.unchanged, hlogged.serverTick,
        (Session.send_id ..).trans hlogged.id, ?_⟩
      refine hlogged.honest.send hplayer (m := ⟨.pong, PingPayload.bytes ⟨clock k⟩⟩)
        (fun player _ => .pong hk) ?_
      intro snapshot hsnapshot
      rw [snapshotOf_pong] at hsnapshot
      cases hsnapshot
  | @playerInput input hinput =>
      rw [Session.dispatchOn_playerInput Server.callbacks session s hinput (by rfl)]
      exact hlogged.server (h.seated.handlePlayerInput _ _) (later_handlePlayerInput s _ _) rfl rfl

end AtWork

/-! ## Its handlers -/

section Handlers

variable {s s' : Server K SessionRef} [HasSqrt K] {clock : ℕ → ℕ → UInt64} {channels : Channels}
  {n g : ℕ} {server : ServerEnd}

/-- **What reaches a session next**, behind what is in its buffer, starts the messages its client
has sent and it has not dispatched. -/
theorem Channel.InOrder.unreadByServer {α : Type} {channel : Channel α} (h : channel.InOrder)
    {link : Link} (hlink : channel.links g = some link) (hserver : link.serverEnd = some server)
    (hread : server.session.readsOutstanding ≠ 0) (hlive : server.session.closed = false)
    (count : ℕ) :
    ∃ todo, channel.client.acceptedIn g = server.session.dispatched ++ todo ∧
      server.session.accumulatedBuffer ++ link.upstream.next count <+:
        todo.flatMap Message.bytes := by
  have hin := (h.links g link hlink).serverEnd server hserver
  obtain ⟨hdispatched, -⟩ := h.delivers g
  rw [hlink] at hdispatched
  have hstarts : server.session.dispatched <+: channel.client.acceptedIn g := by
    simpa [Link.dispatched, hserver] using hdispatched
  obtain ⟨todo, htodo⟩ := hstarts
  refine ⟨todo, htodo.symm, ?_⟩
  have hwritten : link.upstream.written <+: (channel.client.acceptedIn g).flatMap
      Message.bytes := by
    have hsent := h.sends.sent g
    rw [Function.comp_apply, hlink] at hsent
    exact hsent
  have hreceived := (link.upstream.consume count).received_isPrefix.trans hwritten
  rw [Pipe.received_consume, hin.receives.inOrder hread hlive, ← htodo, List.flatMap_append,
    List.append_assoc, List.prefix_append_right_inj] at hreceived
  exact hreceived

/-- **What a session of an honest client keeps**: what its updates keep, and the requests it serves.
It is served nothing before it has a player. -/
theorem World.serves (h : World clock s channels) {link : Link}
    (hlink : (channels n).links g = some link) (hserver : link.serverEnd = some server)
    (hrequests : ∀ m ∈ (channels n).client.acceptedIn g,
      NetworkClient.IsRequest (clock n) (channels n).client.clockReads m)
    {P : Session → Server K SessionRef → Prop} (hP : Session.Keeps Server.callbacks P)
    (hdispatch : ∀ m session s₁, s.assigned ⟨n, g, server.session.id⟩ ≠ none →
      NetworkClient.IsRequest (clock n) (channels n).client.clockReads m →
        session.closed = false → P session s₁ →
          P (Session.dispatchOn Server.callbacks m (session, s₁)).2.1
            (Session.dispatchOn Server.callbacks m (session, s₁)).2.2)
    (hbefore : P server.session s) {event : ServerEvent}
    (hevent : isHonest (.server g event) = true) {link' : Link}
    (hstep : link.serverStep Server.callbacks server s event = some (link', s')) :
    ∃ session, link'.serverEnd = some ⟨session, server.started⟩ ∧ P session s' := by
  have hat : channels.sessionAt n g = some server :=
    Channels.sessionAt_eq_some.mpr ⟨link, hlink, hserver⟩
  have hin := ((h.inOrder n).links g link hlink).serverEnd server hserver
  cases event with
  | start => cases hevent
  | send message => cases hevent
  | stop => cases hevent
  | read count error =>
      simp only [Link.serverStep] at hstep
      split at hstep
      swap
      · cases hstep
      next hguard =>
      obtain ⟨hread, -, havailable, -⟩ := hguard
      cases hstep
      refine ⟨_, rfl, ?_⟩
      have hretired : P server.session.retireRead s := hP.queues _ _ _ _ _ hbefore
      by_cases hclosed : server.session.closed = true
      · rw [Session.handleRead, if_pos (show server.session.retireRead.closed = true from hclosed)]
        exact hretired
      -- the session was started, so it has a player
      have hplayer : s.assigned ⟨n, g, server.session.id⟩ ≠ none := by
        intro hnone
        have hunstarted := ((h.ends n g server hat).unassigned hnone).2
        exact hread (hin.unstarted hunstarted).2.2.1
      -- what it reads starts the requests its client has sent, so it serves requests only
      obtain ⟨todo, htodo, hbytes⟩ :=
        (h.inOrder n).unreadByServer hlink hserver hread (by simpa using hclosed) count
      obtain ⟨-, -, hdone⟩ := Session.handleRead_along (P := fun _ => P) (fun _ => hP)
        (fun m hm => by
          obtain ⟨p, hp, rfl⟩ := List.mem_map.mp hm
          exact (h.inOrder n).sends.fits p (List.mem_of_mem_filter hp))
        (fun done m rest session' s₁ hscript hlive hwork => by
          have hm := hrequests m (by rw [hscript]; simp)
          exact ⟨hdispatch m session' s₁ hplayer hm hlive hwork,
            (dispatchOn_request_closed hm session' s₁).trans hlive⟩)
        htodo (s := server.session.retireRead) hbytes hretired error
      exact hdone
  | transfer i count =>
      simp only [Link.serverStep] at hstep
      split at hstep
      · cases hstep
      split at hstep
      · cases hstep
        exact ⟨_, rfl, hP.queues _ _ _ _ _ hbefore⟩
      · cases hstep
  | written i error =>
      simp only [Link.serverStep] at hstep
      split at hstep
      · cases hstep
      next op _ =>
      split at hstep
      · cases hstep
        have hretired : P (server.session.retireWrite i) s := hP.queues _ _ _ _ _ hbefore
        exact ⟨_, rfl, hP.handleWrite error op.sent hretired⟩
      · cases hstep

variable [IsStrictOrderedRing K]

/-- **A handler of a session of an honest client.** -/
theorem World.serverStep (h : World clock s channels) {link : Link}
    (hlink : (channels n).links g = some link) (hserver : link.serverEnd = some server)
    (hrequests : ∀ m ∈ (channels n).client.acceptedIn g,
      NetworkClient.IsRequest (clock n) (channels n).client.clockReads m)
    {event : ServerEvent} (hevent : isHonest (.server g event) = true) {link' : Link}
    (hstep : link.serverStep Server.callbacks server s event = some (link', s')) :
    ∃ session, link'.serverEnd = some ⟨session, server.started⟩ ∧
      AtWork (clock n) (channels n).client.clockReads s (s.assigned ⟨n, g, server.session.id⟩)
        server.started server.session.id session s' := by
  have hat : channels.sessionAt n g = some server :=
    Channels.sessionAt_eq_some.mpr ⟨link, hlink, hserver⟩
  refine h.serves hlink hserver hrequests atWork_keeps ?_ ?_ hevent hstep
  · intro m session s₁ hplayer hm _ hwork
    exact hwork.dispatch hplayer hm
  · exact ⟨h.seated, .refl s, rfl, rfl, rfl, h.ends n g server hat⟩

end Handlers

end NetworkArena.System
