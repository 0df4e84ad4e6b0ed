/-
# NetworkArena.System.Reachable -- what holds of every state that can be reached

Whatever honest clients do, the system stays sound and its sessions lively: `Arena.Reachable` is the
invariant that results about the whole system start from. What a session does in one of its handlers
is followed by a property of the session and the server (`Reachable.serverStep`); the other sessions
and all clients stand still meanwhile.
-/
import NetworkArena.System.HeldInput

namespace NetworkArena.System

open NetworkArena.Foundation
open NetworkArena.Shared
open NetworkArena.Server
open NetworkArena.Client

variable {K : Type} [Field K] [LinearOrder K]

/-- What holds of the system in every run of fewer than 2^64 ticks. -/
structure Arena.Reachable (clock : ℕ → ℕ → UInt64) (t : Arena K) : Prop where
  sound : t.Sound (fun _ _ => True) clock
  lively : Lively t.server t.channels

section Reachable

variable {clock : ℕ → ℕ → UInt64} {t t' : Arena K}

theorem Arena.reachable_initial : Arena.Reachable clock (Arena.initial : Arena K) :=
  ⟨Arena.sound_initial, lively_initial⟩

omit [Field K] [LinearOrder K] in
/-- A client moves, and its sessions do not. -/
theorem Arena.sessionAt_setChannel {m : ℕ} {channel : Channel ClientApplication}
    (hends : ∀ g, (channel.links g).bind Link.serverEnd = t.channels.sessionAt m g) (n g : ℕ) :
    (t.setChannel m channel).channels.sessionAt n g = t.channels.sessionAt n g := by
  refine (Channels.sessionAt_update t.channels m channel n g).trans ?_
  split
  · next hsame => rw [hends, hsame]
  · rfl

/-- Clients send requests only. -/
theorem Arena.Reachable.requests (h : t.Reachable clock) (n g : ℕ) :
    ∀ m ∈ (t.channels n).client.acceptedIn g,
      NetworkClient.IsRequest (clock n) (t.channels n).client.clockReads m := by
  intro m hm
  obtain ⟨p, hp, rfl⟩ := List.mem_map.mp hm
  exact (h.sound.following n).requests p (List.mem_of_mem_filter hp)

omit [Field K] [LinearOrder K] in
/-- A handler of a session needs a session, and changes its connection only. -/
theorem Channel.step_server {σ α : Type} {env : ClientEnvironment α}
    {callbacks : SessionCallbacks σ} {channel channel' : Channel α} {w w' : σ} {g : ℕ}
    {event : ServerEvent}
    (hstep : Channel.step env callbacks (channel, w) (.server g event) = some (channel', w')) :
    ∃ link server link', channel.links g = some link ∧ link.serverEnd = some server ∧
      link.serverStep callbacks server w event = some (link', w') ∧
      channel' = { channel with links := Function.update channel.links g (some link') } := by
  simp only [Channel.step] at hstep
  split at hstep
  · cases hstep
  next link hlink =>
  split at hstep
  · cases hstep
  next server hserver =>
  obtain ⟨⟨link', w₁⟩, hone, hmoved⟩ := Option.map_eq_some_iff.mp hstep
  cases hmoved
  exact ⟨link, server, link', hlink, hserver, hone, rfl⟩

omit [Field K] [LinearOrder K] in
/-- The sessions once one connection has changed. -/
theorem Arena.sessionAt_setLink (t : Arena K) (m g : ℕ) (link : Link) (n g' : ℕ) :
    (t.setChannel m { t.channels m with
      links := Function.update (t.channels m).links g (some link) }).channels.sessionAt n g' =
      if n = m ∧ g' = g then link.serverEnd else t.channels.sessionAt n g' := by
  refine (Channels.sessionAt_update ..).trans ?_
  by_cases hn : n = m
  · rw [if_pos hn]
    show (Function.update (t.channels m).links g (some link) g').bind Link.serverEnd = _
    by_cases hg : g' = g
    · rw [if_pos ⟨hn, hg⟩, hg, Function.update_self]
      rfl
    · rw [if_neg fun hboth => hg hboth.2, hn, Function.update_of_ne hg]
      rfl
  · rw [if_neg hn, if_neg fun hboth => hn hboth.1]

/-- A session moves no application. -/
theorem Arena.application_serverStep [HasSqrt K] {m g : ℕ} {event : ServerEvent}
    {channel : Channel ClientApplication} {s' : Server K SessionRef}
    (hstep : Channel.step (ClientApplication.environment (clock m)) Server.callbacks
      (t.channels m, t.server) (.server g event) = some (channel, s')) (n : ℕ) :
    (({ t with server := s' }.setChannel m channel).channels n).application =
      (t.channels n).application := by
  obtain ⟨link, server, link', -, -, -, rfl⟩ := Channel.step_server hstep
  exact (t.channels.update_links m _ n).2

/-- What a handler of a session has done. -/
structure Handled (P : Session → Session → Server K SessionRef → Prop) (m g : ℕ) (t : Arena K)
    (server server' : ServerEnd) (s' : Server K SessionRef) (channels' : Channels) : Prop where
  before : t.channels.sessionAt m g = some server
  after : ∀ n g', channels'.sessionAt n g' =
    if n = m ∧ g' = g then some server' else t.channels.sessionAt n g'
  started : server'.started = server.started
  holds : P server.session server'.session s'
  client : ∀ n, (channels' n).client = (t.channels n).client
  application : ∀ n, (channels' n).application = (t.channels n).application

variable [HasSqrt K]

/-- **A session moves.** What its updates keep, and the requests it serves, it has kept. -/
theorem Arena.Reachable.serverStep (h : t.Reachable clock) {m g : ℕ} {event : ServerEvent}
    (hevent : isHonest (.server g event) = true) {channel : Channel ClientApplication}
    {s' : Server K SessionRef}
    (hstep : Channel.step (ClientApplication.environment (clock m)) Server.callbacks
      (t.channels m, t.server) (.server g event) = some (channel, s'))
    {P : Session → Session → Server K SessionRef → Prop}
    (hP : ∀ session₀, Session.Keeps Server.callbacks (P session₀))
    (hdispatch : ∀ session₀ message session s₁, t.server.assigned ⟨m, g, session₀.id⟩ ≠ none →
      NetworkClient.IsRequest (clock m) (t.channels m).client.clockReads message →
        session.closed = false → P session₀ session s₁ →
          P session₀ (Session.dispatchOn Server.callbacks message (session, s₁)).2.1
            (Session.dispatchOn Server.callbacks message (session, s₁)).2.2)
    (hbefore : ∀ server, t.channels.sessionAt m g = some server →
      P server.session server.session t.server) :
    ∃ server server', Handled P m g t server server' s'
      ({ t with server := s' }.setChannel m channel).channels := by
  obtain ⟨link, server, link', hlink, hserver, hone, rfl⟩ := Channel.step_server hstep
  have hat : t.channels.sessionAt m g = some server :=
    Channels.sessionAt_eq_some.mpr ⟨link, hlink, hserver⟩
  obtain ⟨session, hsession, hdone⟩ := h.sound.world.serves hlink hserver (h.requests m g)
    (hP server.session) (hdispatch server.session) (hbefore server hat) hevent hone
  refine ⟨server, ⟨session, server.started⟩, hat, ?_, rfl, hdone, ?_, ?_⟩
  · intro n g'
    exact (Arena.sessionAt_setLink { t with server := s' } m g link' n g').trans (by rw [hsession])
  · intro n
    exact (t.channels.update_links m _ n).1
  · intro n
    exact (t.channels.update_links m _ n).2

/-- **A session moves** as the server steers it. -/
theorem Arena.Reachable.steers (h : t.Reachable clock) {m g : ℕ} {event : ServerEvent}
    (hevent : isHonest (.server g event) = true) {channel : Channel ClientApplication}
    {s' : Server K SessionRef}
    (hstep : Channel.step (ClientApplication.environment (clock m)) Server.callbacks
      (t.channels m, t.server) (.server g event) = some (channel, s')) :
    ∃ server server', Handled (Steering t.server) m g t server server' s'
      ({ t with server := s' }.setChannel m channel).channels :=
  h.serverStep hevent hstep (fun _ => steering_keeps)
    (fun _ _ _ _ _ hm hopen hsteering => hsteering.dispatch hopen hm)
    fun server hat => Steering.refl t.server (h.lively.sockets m g server hat)

/-- The handlers of a session assign nothing. -/
theorem assigned_keeps (s₀ : Server K SessionRef) :
    Session.Keeps (Server.callbacks : SessionCallbacks (Server K SessionRef))
      fun _ s => s.assigned = s₀.assigned where
  report _ _ h := h
  queues _ _ _ _ _ h := h
  close {session s} h := by
    unfold Session.close
    split
    · exact h
    dsimp only
    split
    · exact h
    · exact h

theorem dispatchOn_assigned {clock : ℕ → UInt64} {clockReads : ℕ} {m : Message}
    (hm : NetworkClient.IsRequest clock clockReads m) (session : Session)
    (s : Server K SessionRef) :
    (Session.dispatchOn Server.callbacks m (session, s)).2.2.assigned = s.assigned := by
  cases hm with
  | ping hk => rw [Session.dispatchOn_ping]
  | playerInput hinput =>
      rw [Session.dispatchOn_playerInput Server.callbacks session s hinput (by rfl)]
      rfl

variable [IsStrictOrderedRing K] [FloorRing K] {toFloat : K → FloatBits}

/-- **Nobody's player is taken back** or given to somebody else. -/
theorem Arena.Reachable.assigned (h : t.Reachable clock) {event : ArenaEvent K}
    (hticks : event.isTick = true → t.server.serverTick.toNat + 1 < 2 ^ 64)
    (hstep : Arena.step clock toFloat t event = some t') {session : SessionRef}
    {player : PlayerId × PlayerSide} (hplayer : t.server.assigned session = some player) :
    t'.server.assigned session = some player := by
  have hworld := h.sound.world
  cases Arena.step_cases hstep with
  | client n event hevent hclient => exact hplayer
  | established n g hnew => exact hplayer
  | server n g event hevent hserver =>
      obtain ⟨server, server', hhandled⟩ := h.serverStep hevent hserver
        (P := fun _ _ s => s.assigned = t.server.assigned)
        (fun _ => assigned_keeps t.server)
        (fun _ _ session s₁ _ hm _ hsame => (dispatchOn_assigned hm session s₁).trans hsame)
        fun _ _ => rfl
      exact (congrFun hhandled.holds session).trans hplayer
  | update n keys => exact hplayer
  | shutdown n => exact hplayer
  | accept n g hlink hnew =>
      exact (hworld.handleAccept hlink hnew).2.assigned session player hplayer
  | tick deltaSeconds =>
      exact (hworld.handleTick 0 0 toFloat deltaSeconds (hticks rfl)).2.assigned session player
        hplayer
  | stop => exact (hworld.stop 0 0).2.assigned session player hplayer

/-- **Every step** leads from a reachable state to one. -/
theorem Arena.Reachable.step (h : t.Reachable clock)
    (hclock : ∀ n i j, i ≤ j → clock n i ≤ clock n j) {event : ArenaEvent K}
    (hticks : event.isTick = true → t.server.serverTick.toNat + 1 < 2 ^ 64)
    (hstep : Arena.step clock toFloat t event = some t') :
    t'.Reachable clock ∧ t'.server.serverTick.toNat ≤
      t.server.serverTick.toNat + if event.isTick then 1 else 0 := by
  obtain ⟨hsound, hcounted⟩ := h.sound.step hclock hticks (fun _ _ _ _ _ => trivial) hstep
  refine ⟨⟨hsound, ?_⟩, hcounted⟩
  have hworld := h.sound.world
  cases Arena.step_cases hstep with
  | client n event hevent hclient =>
      exact h.lively.of_sessions (Arena.sessionAt_setChannel (Channel.clientStep_serverEnd hclient))
  | established n g hnew =>
      exact h.lively.of_sessions (Arena.sessionAt_setChannel (Channel.established_serverEnd hnew))
  | server n g event hevent hserver =>
      obtain ⟨server, server', hhandled⟩ := h.steers hevent hserver
      exact h.lively.steering hhandled.before hhandled.holds hhandled.after
  | update n keys => exact h.lively.of_sessions (Arena.sessionAt_setChannel fun _ => rfl)
  | shutdown n => exact h.lively.of_sessions (Arena.sessionAt_setChannel fun _ => rfl)
  | accept n g hlink hnew => exact (h.lively.handleAccept hworld.seated hlink hnew).lively
  | tick deltaSeconds => exact (h.lively.handleTick 0 0 toFloat deltaSeconds).1
  | stop => exact (h.lively.stop 0 0).1

/-- **The invariant rule** for runs of fewer than 2^64 ticks, with what their steps bring forth. -/
theorem Arena.Reachable.run (h : t.Reachable clock)
    (hclock : ∀ n i j, i ≤ j → clock n i ≤ clock n j) {A : Type*}
    (out : Arena K → ArenaEvent K → List A) {I : List A → Arena K → Prop}
    (hkeeps : ∀ before (t : Arena K) event t', t.Reachable clock → I before t →
      (event.isTick = true → t.server.serverTick.toNat + 1 < 2 ^ 64) →
        Arena.step clock toFloat t event = some t' → I (before ++ out t event) t')
    (before : List A) (hbefore : I before t) {events : List (ArenaEvent K)}
    (hticks : t.server.serverTick.toNat + events.countP ArenaEvent.isTick < 2 ^ 64)
    (hrun : runFrom (Arena.step clock toFloat) t events = some t') :
    t'.Reachable clock ∧ I (before ++ outputs (Arena.step clock toFloat) out t events) t' ∧
      t'.server.serverTick.toNat ≤
        t.server.serverTick.toNat + events.countP ArenaEvent.isTick := by
  induction events generalizing t before with
  | nil =>
      cases hrun
      rw [outputs, List.append_nil]
      exact ⟨h, hbefore, Nat.le_refl _⟩
  | cons event events ih =>
      rw [runFrom_cons, Option.bind_eq_some_iff] at hrun
      obtain ⟨t₁, hone, hrest⟩ := hrun
      rw [List.countP_cons] at hticks ⊢
      have hnext : event.isTick = true → t.server.serverTick.toNat + 1 < 2 ^ 64 := by
        intro htick
        rw [if_pos htick] at hticks
        omega
      obtain ⟨hreachable, hcounted⟩ := h.step hclock hnext hone
      obtain ⟨hlast, hI, hticked⟩ :=
        ih hreachable _ (hkeeps before t event t₁ h hbefore hnext hone) (by omega) hrest
      rw [List.append_assoc] at hI
      refine ⟨hlast, ?_, by omega⟩
      rw [outputs, hone]
      exact hI

/-- **The invariant rule** for runs from the start. -/
theorem Arena.invariant_of_run (hclock : ∀ n i j, i ≤ j → clock n i ≤ clock n j) {A : Type*}
    (out : Arena K → ArenaEvent K → List A) {I : List A → Arena K → Prop}
    (hstart : I [] Arena.initial)
    (hkeeps : ∀ before (t : Arena K) event t', t.Reachable clock → I before t →
      (event.isTick = true → t.server.serverTick.toNat + 1 < 2 ^ 64) →
        Arena.step clock toFloat t event = some t' → I (before ++ out t event) t')
    {events : List (ArenaEvent K)} (hticks : events.countP ArenaEvent.isTick < 2 ^ 64)
    (hrun : runFrom (Arena.step clock toFloat) Arena.initial events = some t) :
    t.Reachable clock ∧ I (outputs (Arena.step clock toFloat) out Arena.initial events) t ∧
      t.server.serverTick.toNat ≤ events.countP ArenaEvent.isTick := by
  have hzero : (Arena.initial : Arena K).server.serverTick.toNat = 0 := rfl
  have hall := Arena.reachable_initial.run hclock out hkeeps [] hstart
    (by rwa [hzero, Nat.zero_add]) hrun
  rwa [List.nil_append, hzero, Nat.zero_add] at hall

theorem Arena.reachable_of_run (hclock : ∀ n i j, i ≤ j → clock n i ≤ clock n j)
    {events : List (ArenaEvent K)} (hticks : events.countP ArenaEvent.isTick < 2 ^ 64)
    (hrun : runFrom (Arena.step clock toFloat) Arena.initial events = some t) :
    t.Reachable clock ∧
      t.server.serverTick.toNat ≤ events.countP ArenaEvent.isTick := by
  obtain ⟨hreachable, -, hcounted⟩ := Arena.invariant_of_run hclock (A := Unit)
    (fun _ _ => []) (I := fun _ _ => True) trivial (fun _ _ _ _ _ _ _ _ => trivial)
    hticks hrun
  exact ⟨hreachable, hcounted⟩

end Reachable

end NetworkArena.System
