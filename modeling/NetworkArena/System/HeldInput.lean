/-
# NetworkArena.System.HeldInput -- inputs that are held across games

The server clears the inputs of all players when a game starts, and a client sends an input only
when it differs from the one it sent last. So an input that is held while a new game starts is not
sent again, although the client shows the new game and has nothing left to send.

`HeldInputKept` says that the server applies the input a client holds, whenever the client could
know of the game. It holds in every run in which no game starts while the input that a player sent
last is not neutral and has reached the server (`KeepsHeldInput`), nothing `Update` submits is
refused and the ticks do not wrap.
-/
import NetworkArena.System.Holding

namespace NetworkArena.System

open NetworkArena.Foundation
open NetworkArena.Shared
open NetworkArena.Server
open NetworkArena.Client

variable {K : Type}

/-! ## What is claimed, and when it holds -/

/-- No input a client has sent on a connection is on its way to the server. -/
def InputsArrived (channel : Channel ClientApplication) (g : ℕ) : Prop :=
  inputsOf (Link.dispatched (channel.links g)) = inputsOf (channel.client.acceptedIn g)

instance (channel : Channel ClientApplication) (g : ℕ) : Decidable (InputsArrived channel g) :=
  inferInstanceAs (Decidable (_ = _))

/-- A session of the current connection of a client. -/
def IsCurrent (n : ℕ) (client : NetworkClient) (session : SessionRef) : Prop :=
  session.client = n ∧ session.generation = client.connectionGeneration

instance (n : ℕ) (client : NetworkClient) (session : SessionRef) :
    Decidable (IsCurrent n client session) := inferInstanceAs (Decidable (_ ∧ _))

/-- The server applies an input to a player. -/
def AppliesInput [Field K] [LinearOrder K] [HasSqrt K] (input : PlayerInputPayload)
    (state : PlayerState K) : Prop :=
  state.directionX = (normalizePlayerInput input : NormalizedPlayerInput K).moveX ∧
    state.directionY = (normalizePlayerInput input : NormalizedPlayerInput K).moveY ∧
    state.dashInputActive = input.dash

instance [Field K] [LinearOrder K] [HasSqrt K] (input : PlayerInputPayload)
    (state : PlayerState K) : Decidable (AppliesInput input state) :=
  inferInstanceAs (Decidable (_ ∧ _ ∧ _))

/-- **The server applies the input client `n` holds**: while a game is running, once the client has
applied a snapshot of it taken since it started, has completed an `Update` in which no input was
refused, and none of its inputs is on the way. -/
def HeldInputKept [Field K] [LinearOrder K] [HasSqrt K] (n : ℕ) (t : Arena K) : Prop :=
  ∀ entry ∈ t.server.room.players, ∀ session ∈ entry.2.session,
    IsCurrent n (t.channels n).client session → t.server.room.gameState = .playing →
    ∀ tick ∈ (t.channels n).application.settledTick, t.server.gameStartTick < tick →
      InputsArrived (t.channels n) (t.channels n).client.connectionGeneration →
        AppliesInput (t.channels n).application.currentPlayerInput entry.2.state

/-- What holds of an optional tick is decided on that tick, not on all of them. -/
instance (P : ServerTick → Prop) [DecidablePred P] (tick : Option ServerTick) :
    Decidable (∀ t ∈ tick, P t) :=
  Option.decidableForallMem tick

instance [Field K] [LinearOrder K] [HasSqrt K] (n : ℕ) (t : Arena K) :
    Decidable (HeldInputKept n t) := by
  unfold HeldInputKept
  infer_instance

/-- The application of client `n` is the only one to call its client: besides `Update` and
`Shutdown` it only connects. -/
def isByApplication (n : ℕ) : ArenaEvent K → Bool
  | .channel m (.client (.call call)) => m != n || isConnect call
  | _ => true

/-- **When the input client `n` holds is not lost.** If a game starts while the client is in the
room and its inputs have arrived, the one it sent last is neutral; there is room for what its
`Update` submits; and the next tick has a number. -/
def KeepsHeldInput (clock : ℕ → ℕ → UInt64) (n : ℕ) (t : Arena K) : ArenaEvent K → Prop
  | .accept _ _ => StartsGame t.server →
      ∀ entry ∈ t.server.room.players, ∀ session ∈ entry.2.session,
        IsCurrent n (t.channels n).client session →
        (t.channels n).application.clientGameState.playerIdentity ≠ none →
        InputsArrived (t.channels n) (t.channels n).client.connectionGeneration →
          (t.channels n).application.lastSentPlayerInput = {}
  | .update m keys => m = n → Submits keys (t.channels n).application →
      (ClientApplication.probeRtt (clock n) (t.channels n).client
          (t.channels n).application).1.pendingSendBytes + (inputMessage keys).bytes.length ≤
        NetworkClient.maxPendingSendBytes
  | .tick _ => t.server.serverTick.toNat + 1 < 2 ^ 64
  | _ => True

instance (clock : ℕ → ℕ → UInt64) (n : ℕ) (t : Arena K) (event : ArenaEvent K) :
    Decidable (KeepsHeldInput clock n t event) := by
  cases event <;> unfold KeepsHeldInput <;> infer_instance

/-! ## What the server applies -/

section Obeyed

variable [Field K] [LinearOrder K] [HasSqrt K]

/-- The server applies the last input of a client whose inputs have all arrived. -/
def Obeyed (n : ℕ) (s : Server K SessionRef) (channel : Channel ClientApplication) : Prop :=
  ∀ g id, channel.client.connectionGeneration ≤ g →
    (g = channel.client.connectionGeneration → channel.client.connectionState ≠ .disconnected) →
    ∀ seat ∈ s.room.seats, seat.session = some ⟨n, g, id⟩ → InputsArrived channel g →
      Applies (lastInput (channel.client.acceptedIn g)) seat

variable {n : ℕ} {s s' : Server K SessionRef} {channel channel' : Channel ClientApplication}

/-- **The client goes on.** What it sends has not arrived. -/
theorem Obeyed.advances (h : Obeyed n s channel)
    (hadvances : Advances channel.client channel'.client)
    (hdispatched : ∀ g, Link.dispatched (channel'.links g) = Link.dispatched (channel.links g))
    (hdelivers : ∀ g, Link.dispatched (channel.links g) <+: channel.client.acceptedIn g) :
    Obeyed n s channel' := by
  intro g id hg hopen seat hseat hsession harrived
  have hgeneration := hadvances.generation
  obtain ⟨more, hmore⟩ := hadvances.accepted
  have haccepted : channel'.client.acceptedIn g = channel.client.acceptedIn g ++
      (more.filter fun p => p.1 = g).map (·.2) := by
    rw [NetworkClient.acceptedIn, ← hmore, List.filter_append, List.map_append]
    rfl
  unfold InputsArrived at harrived
  rw [hdispatched, haccepted, inputsOf_append] at harrived
  have hnothing : inputsOf ((more.filter fun p => p.1 = g).map (·.2)) = [] := by
    have hle := ((hdelivers g).filter fun message => message.type = .playerInput).length_le
    have hlength := congrArg List.length harrived
    rw [List.length_append] at hlength
    change (inputsOf _).length ≤ (inputsOf _).length at hle
    exact List.length_eq_zero_iff.mp (by omega)
  rw [hnothing, List.append_nil] at harrived
  have hinputs : inputsOf (channel'.client.acceptedIn g) =
      inputsOf (channel.client.acceptedIn g) := by
    rw [haccepted, inputsOf_append, hnothing, List.append_nil]
  rw [lastInput_congr hinputs]
  refine h g id (hgeneration.trans hg) (fun hsame => ?_) seat hseat hsession harrived
  exact hadvances.state (by omega) (hopen (by omega))

/-- Seats are given up, and nothing is dispatched. -/
theorem Obeyed.stays {channels channels' : Channels} (h : Obeyed n s (channels n))
    (hstays : Stays s s' channels channels')
    (hclient : (channels' n).client = (channels n).client) : Obeyed n s' (channels' n) := by
  intro g id hg hopen seat hseat hsession harrived
  rw [hclient] at hg hopen ⊢
  unfold InputsArrived at harrived
  rw [hstays.dispatched, hclient] at harrived
  exact h g id hg hopen seat (hstays.seats seat hseat) hsession harrived

/-- **A session steers.** Its own player applies what it has dispatched, and no other one
changes. -/
theorem Obeyed.steering {channels : Channels} {n' g' : ℕ} {server server' : ServerEnd}
    (h : Obeyed n s (channels n)) (hlively : Lively s channels)
    (hserver : channels.sessionAt n' g' = some server)
    (hsteering : Steering s server.session server'.session s')
    (hclient : channel'.client = (channels n).client)
    (hat : ∀ g, (channel'.links g).bind Link.serverEnd =
      if n = n' ∧ g = g' then some server' else channels.sessionAt n g) : Obeyed n s' channel' := by
  intro g id hg hopen seat hseat hsession harrived
  rw [hclient] at hg hopen ⊢
  unfold InputsArrived Link.dispatched at harrived
  rw [hclient, hat] at harrived
  obtain ⟨old, hold, hsteered⟩ := hsteering.seats seat hseat
  have holdSession : old.session = some ⟨n, g, id⟩ := hsteered.sameSession.trans hsession
  obtain ⟨session, hsome, hkey, hlive⟩ := hlively.seated old hold
  obtain rfl : session = ⟨n, g, id⟩ := Option.some.inj (hsome.symm.trans holdSession)
  have hid : id = seat.key := hkey.trans hsteered.key
  by_cases hsame : n = n' ∧ g = g'
  · rw [if_pos hsame] at harrived
    obtain ⟨found, hfound, hfoundId, -⟩ := hlive
    have hfound' : channels.sessionAt n g = some found := hfound
    rw [hsame.1, hsame.2, hserver] at hfound'
    cases hfound'
    obtain ⟨-, ⟨rfl, hinputs⟩ | happlies⟩ := hsteered.own (hid.symm.trans hfoundId.symm)
    · refine h g id hg hopen seat hold hsession ?_
      unfold InputsArrived Link.dispatched
      rw [show ((channels n).links g).bind Link.serverEnd = some server from hfound]
      exact hinputs.symm.trans harrived
    · rw [← lastInput_congr harrived]
      exact happlies
  · rw [if_neg hsame] at harrived
    have hunmoved : seat = old := by
      refine hsteered.other ?_
      by_cases hclosed : server.session.closed = true
      · exact Or.inr hclosed
      refine Or.inl fun hkeySame => hsame ?_
      -- two live sessions have different ids
      have hmover : Live channels ⟨n', g', server.session.id⟩ :=
        ⟨server, hserver, rfl, by simpa using hclosed⟩
      have heq := hlively.unique _ _ hlive hmover (hid.trans hkeySame)
      exact ⟨congrArg SessionRef.client heq, congrArg SessionRef.generation heq⟩
    rw [hunmoved]
    exact h g id hg hopen old hold holdSession harrived

variable [IsStrictOrderedRing K]

/-- **A connection is accepted.** A new player applies the neutral input, and so does everybody when
the game starts. -/
theorem Obeyed.welcomes {channels channels' : Channels} {n' g' : ℕ} (h : Obeyed n s (channels n))
    (hwelcomes : Welcomes n' g' s s' channels channels')
    (hclient : (channels' n).client = (channels n).client)
    (hnew : channels.sessionAt n' g' = none)
    (hneutral : StartsGame s → ∀ g id seat, (channels n).client.connectionGeneration ≤ g →
      (g = (channels n).client.connectionGeneration →
        (channels n).client.connectionState ≠ .disconnected) →
      seat ∈ s.room.seats → seat.session = some ⟨n, g, id⟩ → InputsArrived (channels n) g →
        lastInput ((channels n).client.acceptedIn g) = {}) : Obeyed n s' (channels' n) := by
  intro g id hg hopen seat hseat hsession harrived
  rw [hclient] at hg hopen ⊢
  unfold InputsArrived at harrived
  rw [hwelcomes.dispatched, hclient] at harrived
  rcases hwelcomes.seats seat hseat with hold | ⟨id', rfl⟩ | ⟨hstarts, old, hold, rfl⟩
  · exact h g id hg hopen seat hold hsession harrived
  · -- its session has dispatched nothing
    obtain ⟨rfl, rfl⟩ : n' = n ∧ g' = g := by
      have hsame : (⟨n', g', id'⟩ : SessionRef) = ⟨n, g, id⟩ := Option.some.inj hsession
      exact ⟨congrArg SessionRef.client hsame, congrArg SessionRef.generation hsame⟩
    have hnothing : Link.dispatched ((channels n').links g') = [] := by
      unfold Channels.sessionAt at hnew
      unfold Link.dispatched
      rw [hnew]
      rfl
    rw [hnothing] at harrived
    rw [← lastInput_congr harrived]
    exact applies_newSeat s.room _
  · rw [hneutral hstarts g id old hg hopen hold hsession harrived]
    exact applies_cleared old

end Obeyed

/-! ## The whole system -/

/-- The attempts of client `n` start without an identity. -/
def StartsUnknown (n m : ℕ) (g : ClientGameState) : Prop := m = n → g.playerIdentity = none

/-- A system in which no input client `n` holds was lost. -/
structure Arena.Held [Field K] [LinearOrder K] [HasSqrt K] (clock : ℕ → ℕ → UInt64) (n : ℕ)
    (t : Arena K) : Prop where
  sound : t.Sound (StartsUnknown n) clock
  lively : Lively t.server t.channels
  holding : Holding t.server (t.channels n).client (t.channels n).application
  obeyed : Obeyed n t.server (t.channels n)

section Held

variable [Field K] [LinearOrder K] [HasSqrt K] {clock : ℕ → ℕ → UInt64} {n : ℕ} {t : Arena K}

theorem Arena.held_initial : Arena.Held clock n (Arena.initial : Arena K) where
  sound := ⟨world_initial, fun _ => following_initial⟩
  lively := lively_initial
  holding := holding_initial _
  obeyed := nofun

theorem Arena.Held.heldInputKept (h : t.Held clock n) : HeldInputKept n t := by
  rintro entry hentry ⟨m, g, id⟩ hsession ⟨hclient, hgeneration⟩ hplaying tick hsettled hstart
    harrived
  obtain rfl : m = n := hclient
  obtain rfl : g = (t.channels m).client.connectionGeneration := hgeneration
  have hknown : (t.channels m).application.clientGameState.playerIdentity ≠ none := by
    intro hnone
    rw [(h.holding.unknown hnone).2.2] at hsettled
    cases hsettled
  have hopen : (t.channels m).client.connectionState ≠ .disconnected :=
    fun hclosed => hknown (h.holding.forgotten hclosed)
  have happlies := h.obeyed _ id (Nat.le_refl _) (fun _ => hopen) (seatOf entry)
    (Room.mem_seats.mpr ⟨entry, hentry, rfl⟩) hsession harrived
  have hcurrent := (h.holding.settledTick tick hsettled).2 hplaying
    (UInt64.lt_iff_toNat_lt.mp hstart)
  rw [h.holding.lastSent hopen, if_neg hknown, ← hcurrent] at happlies
  exact ⟨(congrArg Seat.directionX happlies).symm, (congrArg Seat.directionY happlies).symm,
    (congrArg Seat.dashInputActive happlies).symm⟩

/-- **A client moves**, and no session does. -/
theorem Arena.Held.client (h : t.Held clock n) {m : ℕ} {channel : Channel ClientApplication}
    (hsound : (t.setChannel m channel).Sound (StartsUnknown n) clock)
    (hends : ∀ g, (channel.links g).bind Link.serverEnd = t.channels.sessionAt m g)
    (hself : m = n → Holding t.server channel.client channel.application ∧
      Advances (t.channels n).client channel.client) : (t.setChannel m channel).Held clock n := by
  have hat : ∀ m' g, Channels.sessionAt (t.setChannel m channel).channels m' g =
      t.channels.sessionAt m' g := by
    intro m' g
    refine (Channels.sessionAt_update t.channels m channel m' g).trans ?_
    split
    · next hsame => rw [hends, hsame]
    · rfl
  refine ⟨hsound, h.lively.of_sessions hat, ?_, ?_⟩
  · show Holding t.server (Function.update t.channels m channel n).client
      (Function.update t.channels m channel n).application
    by_cases hn : m = n
    · subst hn
      rw [Function.update_self]
      exact (hself rfl).1
    · rw [Function.update_of_ne (Ne.symm hn)]
      exact h.holding
  · show Obeyed n t.server (Function.update t.channels m channel n)
    by_cases hn : m = n
    · subst hn
      rw [Function.update_self]
      refine h.obeyed.advances (hself rfl).2 (fun g => ?_) fun g =>
        ((h.sound.world.inOrder m).delivers g).1
      unfold Link.dispatched
      rw [hends]
      rfl
    · rw [Function.update_of_ne (Ne.symm hn)]
      exact h.obeyed

/-- **The client of a channel moves.** -/
theorem Arena.Held.clientStep (h : t.Held clock n) {m : ℕ}
    (hclock : ∀ i j, i ≤ j → clock m i ≤ clock m j) {event : ClientEvent}
    (hevent : isHonest (.client event) = true)
    (hcalls : m = n → ∀ call, event = .call call → isConnect call = true)
    {channel : Channel ClientApplication}
    (hsound : (t.setChannel m channel).Sound (StartsUnknown n) clock)
    (hstep : (t.channels m).clientStep (ClientApplication.environment (clock m)) event =
      some channel) : (t.setChannel m channel).Held clock n := by
  have hworld := h.sound.world
  refine h.client hsound (Channel.clientStep_serverEnd hstep) ?_
  rintro rfl
  have hhappens := hworld.clientStep_happens hclock (h.sound.following m) hevent (hcalls rfl) hstep
  exact ⟨h.holding.happens (fun g hstart => hstart rfl) (hworld.inOrder m).sends
    (fun delivered invocation hasked => hworld.told hasked) hhappens, hhappens.advances⟩

/-- **The server moves**, and no client does. -/
theorem Arena.Held.moves (h : t.Held clock n) {s' : Server K SessionRef} {channels' : Channels}
    (hsound : Arena.Sound (StartsUnknown n) clock ⟨s', channels'⟩)
    (hmoves : Moves t.server s' t.channels channels') (hlively : Lively s' channels')
    (hobeyed : Obeyed n s' (channels' n)) : Arena.Held clock n ⟨s', channels'⟩ := by
  refine ⟨hsound, hlively, ?_, hobeyed⟩
  rw [hmoves.client n, hmoves.application n]
  exact h.holding.later hmoves.later

section Steps

variable [IsStrictOrderedRing K] {toFloat : K → FloatBits} {t' : Arena K}

/-- **A session moves**, and the server with it. -/
theorem Arena.Held.serverStep (h : t.Held clock n) {m g : ℕ} {event : ServerEvent}
    (hevent : isHonest (.server g event) = true) {channel : Channel ClientApplication}
    {s' : Server K SessionRef}
    (hstep : Channel.step (ClientApplication.environment (clock m)) Server.callbacks
      (t.channels m, t.server) (.server g event) = some (channel, s')) :
    ({ t with server := s' }.setChannel m channel).Held clock n := by
  obtain ⟨hsound, -⟩ := h.sound.serverStep hevent hstep
  simp only [Channel.step] at hstep
  split at hstep
  · cases hstep
  next link hlink =>
  split at hstep
  · cases hstep
  next server hserver =>
  obtain ⟨⟨link', s₁⟩, hone, hmoved⟩ := Option.map_eq_some_iff.mp hstep
  cases hmoved
  have hrequests : ∀ m' ∈ (t.channels m).client.acceptedIn g,
      NetworkClient.IsRequest (clock m) (t.channels m).client.clockReads m' := by
    intro m' hm
    obtain ⟨p, hp, rfl⟩ := List.mem_map.mp hm
    exact (h.sound.following m).requests p (List.mem_of_mem_filter hp)
  have hat : t.channels.sessionAt m g = some server :=
    Channels.sessionAt_eq_some.mpr ⟨link, hlink, hserver⟩
  have hworld := h.sound.world
  obtain ⟨session, hsession, hsteering⟩ := hworld.serves hlink hserver hrequests steering_keeps
    (fun _ _ _ _ hm hopen hsteering => hsteering.dispatch hopen hm)
    (Steering.refl t.server fun hopen => h.lively.sockets m g server hat hopen) hevent hone
  obtain ⟨_, -, hwork⟩ := hworld.serverStep hlink hserver hrequests hevent hone
  -- the session has moved, and nothing else
  have hmoved : ∀ m' g', Channels.sessionAt (Function.update t.channels m { t.channels m with
      links := Function.update (t.channels m).links g (some link') }) m' g' =
        if m' = m ∧ g' = g then some ⟨session, server.started⟩ else t.channels.sessionAt m' g' := by
    intro m' g'
    rw [Channels.sessionAt_update]
    by_cases hm : m' = m
    · rw [if_pos hm]
      show (Function.update (t.channels m).links g (some link') g').bind Link.serverEnd = _
      by_cases hg : g' = g
      · rw [if_pos ⟨hm, hg⟩, hg, Function.update_self]
        exact hsession
      · rw [if_neg fun hboth => hg hboth.2, hm, Function.update_of_ne hg]
        rfl
    · rw [if_neg hm, if_neg fun hboth => hm hboth.1]
  obtain ⟨hclient, happlication⟩ :=
    t.channels.update_links m (Function.update (t.channels m).links g (some link')) n
  refine ⟨hsound, h.lively.steering hat hsteering hmoved, ?_,
    h.obeyed.steering h.lively hat hsteering hclient fun g' => hmoved n g'⟩
  show Holding s₁ (Function.update t.channels m _ n).client
    (Function.update t.channels m _ n).application
  rw [hclient, happlication]
  exact h.holding.later hwork.later

/-- **The server accepts a connection.** If a game starts then, the condition says that nothing is
held which the new game clears. -/
theorem Arena.Held.accept (h : t.Held clock n) {m g : ℕ} {link : Link}
    (hlink : (t.channels m).links g = some link) (hnew : link.serverEnd = none)
    (hkeeps : KeepsHeldInput clock n t (.accept m g))
    (hsound : Arena.Sound (StartsUnknown n) clock
      ⟨(t.server.handleAccept (sessionObjects m g) t.channels).1,
        (t.server.handleAccept (sessionObjects m g) t.channels).2⟩) :
    Arena.Held clock n ⟨(t.server.handleAccept (sessionObjects m g) t.channels).1,
      (t.server.handleAccept (sessionObjects m g) t.channels).2⟩ := by
  have hworld := h.sound.world
  obtain ⟨-, hmoves⟩ := hworld.handleAccept hlink hnew
  have hwelcomes := h.lively.handleAccept hworld.seated hlink hnew
  refine h.moves hsound hmoves hwelcomes.lively ?_
  refine h.obeyed.welcomes hwelcomes (hmoves.client n) ?_ ?_
  · rw [Channels.sessionAt, hlink]
    exact hnew
  · intro hstarts g' id seat hg hopen hseat hsession harrived
    -- on a connection that is still to come nothing has been sent
    rcases Nat.eq_or_lt_of_le hg with rfl | hfuture
    · obtain ⟨entry, hentry, rfl⟩ := Room.mem_seats.mp hseat
      rw [h.holding.lastSent (hopen rfl)]
      split
      · rfl
      · next hknown =>
          exact hkeeps hstarts entry hentry _ hsession ⟨rfl, rfl⟩ hknown harrived
    · rw [((hworld.inOrder n).sends.future hfuture).1]
      rfl

variable [FloorRing K]

/-- **Every step** that meets the condition. -/
theorem Arena.Held.step (h : t.Held clock n) (hclock : ∀ n i j, i ≤ j → clock n i ≤ clock n j)
    {event : ArenaEvent K} (hevent : isByApplication n event = true)
    (hkeeps : KeepsHeldInput clock n t event) (hstep : Arena.step clock toFloat t event = some t') :
    t'.Held clock n := by
  have hworld := h.sound.world
  have hticks : event.isTick = true → t.server.serverTick.toNat + 1 < 2 ^ 64 := by
    intro htick
    cases event with
    | tick deltaSeconds => exact hkeeps
    | _ => cases htick
  have hstart : ∀ m call, event = .channel m (.client (.call call)) → isConnect call = true →
      (t.channels m).client.connectionState = .disconnected →
        StartsUnknown n m (t.channels m).application.clientGameState := by
    rintro m - - - hclosed rfl
    exact h.holding.forgotten hclosed
  obtain ⟨hsound, -⟩ := h.sound.step hclock hticks hstart hstep
  cases Arena.step_cases hstep with
  | client m event hhonest hclient =>
      refine h.clientStep (hclock m) hhonest ?_ hsound hclient
      rintro rfl call hcall
      simpa [isByApplication, hcall] using hevent
  | established m g hnew =>
      refine h.client hsound (Channel.established_serverEnd hnew) ?_
      rintro rfl
      exact ⟨h.holding, (Idle.refl _).advances⟩
  | server m g event hhonest hserver => exact h.serverStep hhonest hserver
  | update m keys =>
      refine h.client hsound (fun _ => rfl) ?_
      rintro rfl
      -- if the application knows who it is, its client is connected and knows it as well
      refine ⟨h.holding.update (clock m) keys (hworld.inOrder m).sends (fun hknown => ?_)
        (hkeeps rfl), (advances_survives _).update (clock m) keys (Idle.refl _).advances _⟩
      exact hworld.identified (fun g hstart => hstart rfl) (h.sound.following m).delivering
        (fun hclosed => hknown (h.holding.forgotten hclosed)) hknown
  | shutdown m =>
      refine h.client hsound (fun _ => rfl) ?_
      rintro rfl
      have hhappens : Happens (StartsUnknown m m) (t.channels m).client _ _ _ :=
        happens_shutdown _ (t.channels m).application
      exact ⟨h.holding.happens (fun g hstart => hstart rfl) (hworld.inOrder m).sends
        (fun delivered invocation hasked => hworld.told hasked) hhappens, hhappens.advances⟩
  | accept m g hlink hnew => exact h.accept hlink hnew hkeeps hsound
  | tick deltaSeconds =>
      obtain ⟨-, hmoves⟩ := hworld.handleTick 0 0 toFloat deltaSeconds hkeeps
      obtain ⟨hlively, hstays⟩ := h.lively.handleTick 0 0 toFloat deltaSeconds
      exact h.moves hsound hmoves hlively (h.obeyed.stays hstays (hmoves.client n))
  | stop =>
      obtain ⟨-, hmoves⟩ := hworld.stop 0 0
      obtain ⟨hlively, hstays⟩ := h.lively.stop 0 0
      exact h.moves hsound hmoves hlively (h.obeyed.stays hstays (hmoves.client n))

/-- **No held input is lost across games**, in every run whose steps meet the condition: no input
that has arrived is still the last one sent when the start of a game clears it. (On every client
`Connect` and `Disconnect` succeed fewer than 2^64 times, see `NetworkClient.Counts`.) -/
theorem held_input_kept (clock : ℕ → ℕ → UInt64) (toFloat : K → FloatBits)
    (hclock : ∀ n i j, i ≤ j → clock n i ≤ clock n j) (n : ℕ) (events : List (ArenaEvent K))
    (happlication : ∀ event ∈ events, isByApplication n event = true)
    (hkeeps : EachStep (Arena.step clock toFloat) (KeepsHeldInput clock n) Arena.initial events) :
    Throughout (Arena.step clock toFloat) (HeldInputKept n) Arena.initial events := by
  have hboth : EachStep (Arena.step clock toFloat)
      (fun t event => isByApplication n event = true ∧ KeepsHeldInput clock n t event)
      Arena.initial events := by
    intro before event t t' hbefore hrun hstep
    refine ⟨happlication event (hbefore.subset ?_), hkeeps before event t t' hbefore hrun hstep⟩
    exact List.mem_append_right _ (List.mem_singleton_self _)
  exact hboth.throughout (fun _ h => Arena.Held.heldInputKept h)
    (fun _ _ _ h hstep hC => h.step hclock hC.1 hC.2 hstep) Arena.held_initial

end Steps

end Held

/-! ## Two runs -/

/-- Client `n` connects for the first time, and is accepted. -/
def joins (n : ℕ) : List (ArenaEvent ℚ) := [
  .channel n (.client (.call (.connect "127.0.0.1" 7777 {}))),
  .channel n (.client (.resolved 1 none)), .channel n (.established 1),
  .channel n (.client (.connected 1 none)), .accept n 1]

/-- A message of some bytes reaches client 0 and its application. -/
def isTold (count : ℕ) : List (ArenaEvent ℚ) := [
  .channel 0 (.server 1 (.transfer 0 count)), .channel 0 (.client (.read 1 count none)),
  .channel 0 (.client (.posted 0)), .channel 0 (.server 1 (.written 0 none))]

/-- An input of client 0 reaches the server. -/
def inputArrives : List (ArenaEvent ℚ) := [
  .channel 0 (.client (.transfer 0 11)), .channel 0 (.client (.written 0 none)),
  .channel 0 (.server 1 (.read 11 none))]

/-- Clients 0 and 1 play, client 0 presses a key, and its input arrives. -/
def firstGame : List (ArenaEvent ℚ) :=
  joins 0 ++ joins 1 ++ isTold 12 ++ [.tick (1 / 60)] ++ isTold 87 ++ [.update 0 { w := true }] ++
    inputArrives

/-- Client 1 is gone, client 2 takes its place, and client 0 is shown the new game. -/
def secondGame : List (ArenaEvent ℚ) :=
  [.channel 1 (.server 1 (.read 0 (some .eof)))] ++ joins 2 ++ [.tick (1 / 60)] ++ isTold 87

/-- The key is released between the games, and pressed again. -/
def releasedBetweenGames : List (ArenaEvent ℚ) :=
  firstGame ++ [.update 0 {}] ++ inputArrives ++ secondGame ++ [.update 0 { w := true }] ++
    inputArrives

/-- The key is held all the time. -/
def heldAcrossGames : List (ArenaEvent ℚ) :=
  firstGame ++ secondGame ++ [.update 0 { w := true }]

/-- The theorem on a run of two games. -/
theorem held_input_kept_releasedBetweenGames :
    ∃ t, runFrom (Arena.step (fun _ _ => 0) nearestFloat) Arena.initial releasedBetweenGames =
      some t ∧ (t.channels 0).application.settledTick = some 2 ∧ t.server.gameStartTick = 1 ∧
        HeldInputKept 0 t := by
  have hrun : (runFrom (Arena.step (fun _ _ => 0) nearestFloat) Arena.initial
      releasedBetweenGames).map (fun t => ((t.channels 0).application.settledTick,
        t.server.gameStartTick)) = some (some 2, 1) := by decide +kernel
  obtain ⟨t, hrun, hticks⟩ := Option.map_eq_some_iff.mp hrun
  obtain ⟨hsettled, hstart⟩ := Prod.mk.inj hticks
  refine ⟨t, hrun, hsettled, hstart, ?_⟩
  exact held_input_kept (fun _ _ => 0) nearestFloat (fun _ _ _ _ => UInt64.le_refl 0) 0
    releasedBetweenGames (by decide) (by decide +kernel) releasedBetweenGames t
    (List.prefix_refl _) hrun

/-- **A held input is lost**: the server has cleared it, and the client does not send it again. -/
theorem held_input_lost_heldAcrossGames :
    (∀ event ∈ heldAcrossGames, isByApplication 0 event = true) ∧
      ¬ Throughout (Arena.step (fun _ _ => 0) nearestFloat) (HeldInputKept 0) Arena.initial
        heldAcrossGames := by
  have hlost : (runFrom (Arena.step (fun _ _ => 0) nearestFloat) Arena.initial
      heldAcrossGames).map (fun t => decide (HeldInputKept 0 t)) = some false := by decide +kernel
  refine ⟨by decide, fun hkept => ?_⟩
  obtain ⟨t, hrun, hno⟩ := Option.map_eq_some_iff.mp hlost
  exact of_decide_eq_false hno (hkept heldAcrossGames t (List.prefix_refl _) hrun)

end NetworkArena.System
