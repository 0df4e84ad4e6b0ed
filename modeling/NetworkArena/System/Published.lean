/-
# NetworkArena.System.Published -- one history of snapshots

Each tick of a running server publishes one snapshot, unless it cannot be encoded. A session that
has a seat is told every one of them: if it cannot be told, it loses its seat, and nobody gets the
same seat again. So what a session has been told is a stretch of the history without gaps, up to the
present while it has its seat.

Clients show what their sessions were told. As the ticks of the history increase, two clients that
show a snapshot of one tick show the same snapshot.
-/
import NetworkArena.Client.SnapshotHistory
import NetworkArena.Server.Broadcast
import NetworkArena.System.Reachable

namespace NetworkArena.System

open NetworkArena.Foundation
open NetworkArena.Shared
open NetworkArena.Server
open NetworkArena.Client

variable {K : Type}

/-! ## What a tick publishes -/

section Definitions

variable [Field K] [LinearOrder K] [IsStrictOrderedRing K] [FloorRing K] [HasSqrt K]

/-- The server in a tick, once its room was ticked. -/
def ticked (deltaSeconds : K) (s : Server K SessionRef) : Server K SessionRef :=
  { s with
    serverTick := s.serverTick + 1
    room := s.room.tick (if deltaSeconds > Server.maxServerTickDeltaSeconds then
      Server.maxServerTickDeltaSeconds else deltaSeconds) }

/-- What `TickDefaultRoom` captures. -/
def captured (toFloat : K → FloatBits) (s : Server K SessionRef) : WorldStateSnapshot FloatBits :=
  (s.room.captureSnapshot s.serverTick).map toFloat

/-- The snapshot a tick publishes, if the server is running and can encode it. -/
def published (toFloat : K → FloatBits) (deltaSeconds : K) (s : Server K SessionRef) :
    List (WorldStateSnapshot FloatBits) :=
  let snapshot := captured toFloat (ticked deltaSeconds s)
  let (encoded, _) := (encodeWorldStateSnapshotPayload snapshot).get
    (encodeWorldStateSnapshotPayload_inBounds snapshot)
  if s.stopped || !encoded then [] else [snapshot]

section Published

variable {toFloat : K → FloatBits} {deltaSeconds : K} {s : Server K SessionRef}

theorem published_stopped (h : s.stopped = true) : published toFloat deltaSeconds s = [] := by
  unfold published
  rw [h]
  rfl

theorem published_of_valid (h : ¬ s.stopped = true)
    (hvalid : (captured toFloat (ticked deltaSeconds s)).Valid) :
    published toFloat deltaSeconds s = [captured toFloat (ticked deltaSeconds s)] := by
  unfold published
  dsimp only
  rw [Checked.get_eq (encode_valid hvalid), show s.stopped = false by simpa using h]
  rfl

theorem published_of_invalid (hvalid : ¬ (captured toFloat (ticked deltaSeconds s)).Valid) :
    published toFloat deltaSeconds s = [] := by
  unfold published
  dsimp only
  rw [Checked.get_eq (encode_invalid hvalid), Bool.not_false, Bool.or_true, if_pos rfl]

omit [IsStrictOrderedRing K] [FloorRing K] [HasSqrt K] in
theorem announce_of_valid (channels : Channels) (hvalid : (captured toFloat s).Valid) :
    announce 0 0 toFloat s channels =
      let t := s.room.broadcast (Server.roomSessions (sessionObjects 0 0)) .worldStateSnapshot
        (captured toFloat s).bytes (s.sessions, channels)
      (withRoom s t, t.2.2) := by
  unfold announce
  dsimp only
  rw [show (s.room.captureSnapshot s.serverTick).map toFloat = captured toFloat s from rfl,
    Checked.get_eq (encode_valid hvalid)]
  rfl

omit [IsStrictOrderedRing K] [FloorRing K] [HasSqrt K] in
theorem announce_of_invalid (channels : Channels) (hvalid : ¬ (captured toFloat s).Valid) :
    announce 0 0 toFloat s channels = (s, channels) := by
  unfold announce
  dsimp only
  rw [show (s.room.captureSnapshot s.serverTick).map toFloat = captured toFloat s from rfl,
    Checked.get_eq (encode_invalid hvalid)]
  rfl

end Published

namespace Arena

/-- The snapshots an event publishes. -/
def publishes (toFloat : K → FloatBits) (t : Arena K) :
    ArenaEvent K → List (WorldStateSnapshot FloatBits)
  | .tick deltaSeconds => published toFloat deltaSeconds t.server
  | _ => []

/-- The snapshots published in a run. -/
def history (clock : ℕ → ℕ → UInt64) (toFloat : K → FloatBits) (t : Arena K)
    (events : List (ArenaEvent K)) : List (WorldStateSnapshot FloatBits) :=
  outputs (step clock toFloat) (publishes toFloat) t events

end Arena

end Definitions

/-- The snapshots the session of a connection was told. -/
def toldTo (channels : Channels) (n g : ℕ) : List (WorldStateSnapshot FloatBits) :=
  snapshotsOf (Link.accepted ((channels n).links g))

/-- The session has a seat in the room. -/
def HasSeat (s : Server K SessionRef) (session : SessionRef) : Prop :=
  ∃ seat ∈ s.room.seats, seat.session = some session

instance (s : Server K SessionRef) (session : SessionRef) : Decidable (HasSeat s session) :=
  inferInstanceAs (Decidable (∃ seat ∈ s.room.seats, _))

/-! ## Sessions that are told something -/

section Telling

variable {channels : Channels} {n g : ℕ}

theorem toldTo_eq (channels : Channels) (n g : ℕ) : toldTo channels n g =
    ((channels.sessionAt n g).map fun server => snapshotsOf server.session.accepted).getD [] := by
  unfold toldTo Link.accepted Channels.sessionAt
  cases ((channels n).links g).bind Link.serverEnd with
  | none => rfl
  | some server => rfl

theorem toldTo_congr {channels' : Channels}
    (h : channels'.sessionAt n g = channels.sessionAt n g) :
    toldTo channels' n g = toldTo channels n g := by
  rw [toldTo_eq, toldTo_eq, h]

theorem toldTo_none (h : channels.sessionAt n g = none) : toldTo channels n g = [] := by
  rw [toldTo_eq, h]
  rfl

/-- A session changes that is told nothing. -/
theorem toldTo_modifySession (n g : ℕ) {f : ServerEnd → ServerEnd}
    (hf : ∀ server, snapshotsOf (f server).session.accepted = snapshotsOf server.session.accepted)
    (n' g' : ℕ) : toldTo (channels.modifySession n g f) n' g' = toldTo channels n' g' := by
  rw [toldTo_eq, toldTo_eq, Channels.sessionAt_modifySession]
  split
  · next hsame =>
      rw [hsame.1, hsame.2]
      cases channels.sessionAt n g with
      | none => rfl
      | some server => exact hf server
  · rfl

theorem toldTo_stop (n g : ℕ) (session : SessionRef) (n' g' : ℕ) :
    toldTo ((sessionObjects n g).stop session channels).2 n' g' = toldTo channels n' g' :=
  toldTo_modifySession _ _ (fun _ => congrArg snapshotsOf (Session.close_accepted ..)) n' g'

theorem snapshotsOf_concat {snapshot : WorldStateSnapshot FloatBits} (h : snapshot.Valid)
    (messages : List Message) :
    snapshotsOf (messages ++ [⟨.worldStateSnapshot, snapshot.bytes⟩]) =
      snapshotsOf messages ++ [snapshot] := by
  rw [snapshotsOf, List.filterMap_append]
  simp [snapshotsOf, snapshotOf_bytes h]

/-- No other message tells a session anything. -/
theorem snapshotsOf_send {type : MessageType} (h : type ≠ .worldStateSnapshot)
    (payload : List UInt8) (session : Session) :
    snapshotsOf (session.send type payload).2.accepted = snapshotsOf session.accepted := by
  cases hsent : (session.send type payload).1 with
  | true =>
      have hnone : snapshotOf ⟨type, payload⟩ = none := NetworkClient.snapshotOf_of_type h
      rw [Session.send_true _ _ _ hsent, snapshotsOf, List.filterMap_append]
      simp [hnone, snapshotsOf]
  | false => rw [(Session.send_false _ _ _ hsent).2.2]

theorem start_accepted (session : Session) : session.start.accepted = session.accepted := by
  unfold Session.start
  split
  · rfl
  · unfold Session.readNext
    split
    · rfl
    · rfl

/-- A new session was told nothing, like no session. -/
theorem toldTo_create {link : Link} (hlink : (channels n).links g = some link)
    (hnew : link.serverEnd = none) (id : SessionId) (n' g' : ℕ) :
    toldTo (channels.setSession n g { session := { id } }) n' g' = toldTo channels n' g' := by
  have hat := Channels.sessionAt_setSession hlink { session := { id } } n' g'
  split at hat
  · next hsame =>
      obtain ⟨rfl, rfl⟩ := hsame
      have hnone : channels.sessionAt n' g' = none := by
        rw [Channels.sessionAt, hlink]
        exact hnew
      rw [toldTo_none hnone, toldTo_eq, hat]
      rfl
  · exact toldTo_congr hat

/-- Other sessions are told nothing. -/
theorem toldTo_send_other (n g : ℕ) (session : SessionRef) (type : MessageType)
    (payload : List UInt8) {n' g' : ℕ}
    (h : ¬ (n' = session.client ∧ g' = session.generation)) :
    toldTo ((sessionObjects n g).send session type payload channels).2 n' g' =
      toldTo channels n' g' := by
  apply toldTo_congr
  show (channels.modifySession _ _ _).sessionAt n' g' = _
  rw [Channels.sessionAt_modifySession, if_neg h]

/-- **A session is sent a snapshot**: it is told of it exactly if `Send` succeeds. -/
theorem toldTo_send {snapshot : WorldStateSnapshot FloatBits} (h : snapshot.Valid) (n g : ℕ)
    (session : SessionRef) {sent : Bool}
    (hsent : ((sessionObjects n g).send session .worldStateSnapshot snapshot.bytes channels).1 =
      sent) :
    toldTo ((sessionObjects n g).send session .worldStateSnapshot snapshot.bytes channels).2
        session.client session.generation =
      toldTo channels session.client session.generation ++ if sent then [snapshot] else [] := by
  change (channels.sessionAt _ _).any _ = _ at hsent
  show toldTo (channels.modifySession _ _ _) _ _ = _
  rw [toldTo_eq, toldTo_eq, Channels.sessionAt_modifySession, if_pos ⟨rfl, rfl⟩]
  cases hserver : channels.sessionAt session.client session.generation with
  | none =>
      rw [hserver] at hsent
      subst hsent
      rfl
  | some server =>
      rw [hserver, Option.any_some] at hsent
      simp only [Option.map_some, Option.getD_some]
      cases sent with
      | true => rw [Session.send_true _ _ _ hsent, snapshotsOf_concat h, if_pos rfl]
      | false => simp [(Session.send_false _ _ _ hsent).2.2]

end Telling

/-! ## A broadcast -/

/-- The connection a session object owns. -/
def SessionRef.connection (session : SessionRef) : ℕ × ℕ := (session.client, session.generation)

section Broadcast

variable {snapshot : WorldStateSnapshot FloatBits} {channels : Channels}

/-- What a snapshot does to the players it is sent to: everyone is told of it, has expired or is
noted as failed. -/
structure Announced (snapshot : WorldStateSnapshot FloatBits)
    (players : List (SessionId × Player K SessionRef)) (channels : Channels)
    (expired : List SessionId) (failed : List SessionRef) (channels' : Channels) : Prop where
  told : ∀ n g, toldTo channels' n g = toldTo channels n g ∨
    (∃ entry ∈ players, ∃ session, entry.2.session = some session ∧
      session.connection = (n, g)) ∧ toldTo channels' n g = toldTo channels n g ++ [snapshot]
  players : ∀ entry ∈ players, entry.1 ∈ expired ∨ ∃ session, entry.2.session = some session ∧
    (session ∈ failed ∨ toldTo channels' session.client session.generation =
      toldTo channels session.client session.generation ++ [snapshot])

/-- The first loop at a player whose session has expired. -/
theorem Announced.expired {entry : SessionId × Player K SessionRef}
    {players : List (SessionId × Player K SessionRef)} {expired : List SessionId}
    {failed : List SessionRef} {channels' : Channels}
    (h : Announced snapshot players channels expired failed channels') :
    Announced snapshot (entry :: players) channels (entry.1 :: expired) failed channels' where
  told n g := by
    rcases h.told n g with hsame | ⟨⟨entry', hentry', hsession⟩, hone⟩
    · exact Or.inl hsame
    · exact Or.inr ⟨⟨entry', List.mem_cons_of_mem _ hentry', hsession⟩, hone⟩
  players entry' hentry' := by
    rcases List.mem_cons.mp hentry' with rfl | hbehind
    · exact Or.inl List.mem_cons_self
    · rcases h.players entry' hbehind with hexpired | hother
      · exact Or.inl (List.mem_cons_of_mem _ hexpired)
      · exact Or.inr hother

/-- The first loop at any other player, whose connection is not that of one behind it. -/
theorem Announced.sent (hvalid : snapshot.Valid) (n g : ℕ)
    {entry : SessionId × Player K SessionRef} {session : SessionRef}
    (hsession : entry.2.session = some session)
    {players : List (SessionId × Player K SessionRef)}
    (hnew : session.connection ∉ (players.filterMap (·.2.session)).map SessionRef.connection)
    {sent : Bool} {channels₁ : Channels}
    (hsent : (sessionObjects n g).send session .worldStateSnapshot snapshot.bytes channels =
      (sent, channels₁)) {expired : List SessionId} {failed : List SessionRef}
    {channels' : Channels} (h : Announced snapshot players channels₁ expired failed channels') :
    Announced snapshot (entry :: players) channels expired
      (if !sent then session :: failed else failed) channels' := by
  have hself := toldTo_send hvalid n g session (congrArg Prod.fst hsent)
  have hother : ∀ n' g', session.connection ≠ (n', g') →
      toldTo channels₁ n' g' = toldTo channels n' g' := by
    intro n' g' hne
    have hnot : ¬ (n' = session.client ∧ g' = session.generation) :=
      fun hsame => hne (by rw [hsame.1, hsame.2]; rfl)
    have hothers : toldTo ((sessionObjects n g).send session .worldStateSnapshot snapshot.bytes
        channels).2 n' g' = toldTo channels n' g' :=
      toldTo_send_other n g session .worldStateSnapshot snapshot.bytes hnot
    rw [hsent] at hothers
    exact hothers
  rw [hsent] at hself
  -- nobody behind it is on its connection, so it is told nothing else
  have hkept : toldTo channels' session.client session.generation =
      toldTo channels₁ session.client session.generation := by
    refine (h.told _ _).resolve_right ?_
    rintro ⟨⟨entry', hentry', session', hsession', hsame⟩, -⟩
    exact hnew (List.mem_map.mpr ⟨session',
      List.mem_filterMap.mpr ⟨entry', hentry', hsession'⟩, hsame⟩)
  constructor
  · intro n' g'
    by_cases hsame : session.connection = (n', g')
    · obtain ⟨rfl, rfl⟩ := Prod.mk.inj hsame
      rw [hkept, hself]
      cases sent with
      | true => exact Or.inr ⟨⟨entry, List.mem_cons_self, session, hsession, rfl⟩, rfl⟩
      | false => exact Or.inl (List.append_nil _)
    · rw [← hother n' g' hsame]
      rcases h.told n' g' with hstill | ⟨⟨entry', hentry', hsession'⟩, hone⟩
      · exact Or.inl hstill
      · exact Or.inr ⟨⟨entry', List.mem_cons_of_mem _ hentry', hsession'⟩, hone⟩
  · intro entry' hentry'
    rcases List.mem_cons.mp hentry' with rfl | hbehind
    · refine Or.inr ⟨session, hsession, ?_⟩
      rw [hkept, hself]
      cases sent with
      | true => exact Or.inr rfl
      | false => exact Or.inl List.mem_cons_self
    · rcases h.players entry' hbehind with hexpired | ⟨session', hsession', hafter⟩
      · exact Or.inl hexpired
      refine Or.inr ⟨session', hsession', ?_⟩
      have hne : session.connection ≠ (session'.client, session'.generation) := by
        intro hsame
        exact hnew (List.mem_map.mpr ⟨session',
          List.mem_filterMap.mpr ⟨entry', hbehind, hsession'⟩, hsame.symm⟩)
      rw [← hother _ _ hne]
      rcases hafter with hfailed | htold
      · left
        split
        · exact List.mem_cons_of_mem _ hfailed
        · exact hfailed
      · exact Or.inr htold

/-- **The first loop of a broadcast.** No two players share a connection. -/
theorem announced_broadcastLoop (hvalid : snapshot.Valid) (n g : ℕ)
    {players : List (SessionId × Player K SessionRef)}
    (hdistinct : ((players.filterMap (·.2.session)).map SessionRef.connection).Nodup)
    (registry : List (SessionId × SessionRef)) (channels : Channels)
    {told : (List SessionId × List SessionRef) × List (SessionId × SessionRef) × Channels}
    (htold : Room.broadcastLoop (Server.roomSessions (sessionObjects n g)) .worldStateSnapshot
      snapshot.bytes players (registry, channels) = told) :
    Announced snapshot players channels told.1.1 told.1.2 told.2.2 := by
  induction players generalizing channels told with
  | nil =>
      subst htold
      exact ⟨fun _ _ => Or.inl rfl, nofun⟩
  | cons entry players ih =>
      rcases expired_or_locked (Server.roomSessions (sessionObjects n g)) entry.2.session
        (registry, channels) with hexpired | ⟨session, hsession, hlock⟩
      · rw [broadcastLoop_expired hexpired] at htold
        subst htold
        have hrest : ((players.filterMap (·.2.session)).map SessionRef.connection).Nodup :=
          hdistinct.sublist (((List.sublist_cons_self entry players).filterMap _).map _)
        exact (ih hrest channels rfl).expired
      · rw [broadcastLoop_locked hsession hlock] at htold
        subst htold
        rw [show (entry :: players).filterMap (·.2.session) =
          session :: players.filterMap (·.2.session) from List.filterMap_cons_some hsession,
          List.map_cons, List.nodup_cons] at hdistinct
        exact (ih hdistinct.2 _ rfl).sent hvalid n g hsession hdistinct.1 rfl

variable [Field K]

theorem leaves_seats (ids : List SessionId) (r : Room K SessionRef) :
    ∀ seat ∈ (ids.foldl Room.leave r).seats, seat ∈ r.seats ∧ seat.key ∉ ids := by
  intro seat hseat
  obtain ⟨entry, hentry, rfl⟩ := Room.mem_seats.mp hseat
  rw [Room.leaves_players, List.mem_filter] at hentry
  exact ⟨Room.mem_seats.mpr ⟨entry, hentry.1, rfl⟩, of_decide_eq_true hentry.2⟩

/-- **The last loop of a broadcast**: whoever failed leaves, and nobody is told anything. -/
theorem dropFailed_seats (n g : ℕ) (failed : List SessionRef) (r : Room K SessionRef)
    (registry : List (SessionId × SessionRef)) (channels : Channels)
    {t : Room K SessionRef × List (SessionId × SessionRef) × Channels}
    (ht : Room.dropFailed (Server.roomSessions (sessionObjects n g)) failed r
      (registry, channels) = t) :
    (∀ n' g', toldTo t.2.2 n' g' = toldTo channels n' g') ∧
      ∀ seat ∈ t.1.seats, seat ∈ r.seats ∧ ∀ session ∈ failed, seat.key ≠ session.id := by
  induction failed generalizing r registry channels with
  | nil =>
      subst ht
      exact ⟨fun _ _ => rfl, fun _ hseat => ⟨hseat, nofun⟩⟩
  | cons session failed ih =>
      have hleft : ∀ (ids : List SessionId), ∀ seat ∈
          (ids.foldl Room.leave (r.leave session.id)).seats, seat ∈ r.seats ∧
            seat.key ≠ session.id := fun ids seat hseat =>
        seats_leave r session.id seat (leaves_seats ids _ seat hseat).1
      have hstopped : ∀ (ids : List SessionId) registry', Room.dropFailed
          (Server.roomSessions (sessionObjects n g)) failed
          (ids.foldl Room.leave (r.leave session.id))
          (registry', ((sessionObjects n g).stop session channels).2) = t →
            (∀ n' g', toldTo t.2.2 n' g' = toldTo channels n' g') ∧
              ∀ seat ∈ t.1.seats, seat ∈ r.seats ∧
                ∀ session' ∈ session :: failed, seat.key ≠ session'.id := by
        intro ids registry' hrest
        obtain ⟨htold, hseats⟩ := ih _ _ _ hrest
        refine ⟨fun n' g' => (htold n' g').trans (toldTo_stop n g session n' g'),
          fun seat hseat => ?_⟩
        obtain ⟨hbefore, hothers⟩ := hseats seat hseat
        obtain ⟨hin, hne⟩ := hleft ids seat hbefore
        exact ⟨hin, List.forall_mem_cons.mpr ⟨hne, hothers⟩⟩
      unfold Room.dropFailed at ht
      dsimp only [Server.roomSessions] at ht
      split at ht
      · exact hstopped [session.id] _ ht
      · exact hstopped [] _ ht

omit [Field K] in
/-- A room whose players have live sessions has no two of them on one connection. -/
theorem Lively.connections_nodup {s : Server K SessionRef} (h : Lively s channels)
    (hdistinct : (s.room.players.map (·.1)).Nodup) :
    ((s.room.players.filterMap (·.2.session)).map SessionRef.connection).Nodup := by
  rw [List.nodup_iff_pairwise_ne, List.pairwise_map] at hdistinct
  rw [List.nodup_iff_pairwise_ne, List.pairwise_map]
  refine List.pairwise_filterMap.mpr (hdistinct.imp_of_mem ?_)
  intro entry entry' hentry hentry' hne session hsession session' hsession' hsame
  apply hne
  obtain ⟨live, hlive, hkey, server, hserver, hid, -⟩ :=
    h.seated _ (Room.mem_seats.mpr ⟨entry, hentry, rfl⟩)
  obtain ⟨live', hlive', hkey', server', hserver', hid', -⟩ :=
    h.seated _ (Room.mem_seats.mpr ⟨entry', hentry', rfl⟩)
  obtain rfl : session = live := Option.some.inj (hsession.symm.trans hlive)
  obtain rfl : session' = live' := Option.some.inj (hsession'.symm.trans hlive')
  obtain ⟨hclient, hgeneration⟩ := Prod.mk.inj hsame
  rw [← hclient, ← hgeneration, hserver] at hserver'
  obtain rfl := Option.some.inj hserver'
  exact hkey.symm.trans ((hid.symm.trans hid').trans hkey')

/-- **A broadcast**: whoever keeps its seat was told. -/
theorem Lively.announces {s : Server K SessionRef} (h : Lively s channels)
    (hdistinct : (s.room.players.map (·.1)).Nodup) (hvalid : snapshot.Valid) (n g : ℕ)
    {t : Room K SessionRef × List (SessionId × SessionRef) × Channels}
    (ht : s.room.broadcast (Server.roomSessions (sessionObjects n g)) .worldStateSnapshot
      snapshot.bytes (s.sessions, channels) = t) :
    (∀ n' g', toldTo t.2.2 n' g' = toldTo channels n' g' ∨
      (∃ session, HasSeat s session ∧ session.connection = (n', g')) ∧
        toldTo t.2.2 n' g' = toldTo channels n' g' ++ [snapshot]) ∧
    ∀ session, HasSeat (withRoom s t) session → HasSeat s session ∧
      toldTo t.2.2 session.client session.generation =
        toldTo channels session.client session.generation ++ [snapshot] := by
  unfold Room.broadcast at ht
  generalize hloop : Room.broadcastLoop (Server.roomSessions (sessionObjects n g))
    .worldStateSnapshot snapshot.bytes s.room.players (s.sessions, channels) = told at ht
  have hannounced := announced_broadcastLoop hvalid n g (h.connections_nodup hdistinct)
    s.sessions channels hloop
  obtain ⟨⟨expired, failed⟩, registry, channels'⟩ := told
  obtain ⟨htold, hplayers⟩ := hannounced
  dsimp only at ht htold hplayers
  obtain ⟨hsame, hseats⟩ := dropFailed_seats n g failed _ registry channels' ht
  constructor
  · intro n' g'
    rw [hsame]
    rcases htold n' g' with hnothing | ⟨⟨entry, hentry, session, hsession, hat⟩, hone⟩
    · exact Or.inl hnothing
    · exact Or.inr ⟨⟨session, ⟨_, Room.mem_seats.mpr ⟨entry, hentry, rfl⟩, hsession⟩, hat⟩, hone⟩
  · rintro session ⟨seat, hseat, hsession⟩
    obtain ⟨hleft, hstays⟩ := hseats seat hseat
    obtain ⟨hbefore, hunexpired⟩ := leaves_seats expired s.room seat hleft
    refine ⟨⟨seat, hbefore, hsession⟩, ?_⟩
    obtain ⟨live, hlive, hid, -⟩ := h.seated seat hbefore
    obtain rfl : session = live := Option.some.inj (hsession.symm.trans hlive)
    obtain ⟨entry, hentry, rfl⟩ := Room.mem_seats.mp hbefore
    rcases hplayers entry hentry with hexpired | ⟨session', hsession', hafter⟩
    · exact absurd hexpired hunexpired
    obtain rfl : session = session' := Option.some.inj (hsession.symm.trans hsession')
    rw [hsame]
    exact hafter.resolve_left fun hfailed => hstays session hfailed hid.symm

end Broadcast

/-! ## What a step publishes -/

/-- What becomes of the sessions when some snapshots are published. Only sessions with seats are
told, and whoever has a seat then was told all of it, or is new. -/
structure Hears (snapshots : List (WorldStateSnapshot FloatBits)) (s s' : Server K SessionRef)
    (channels channels' : Channels) : Prop where
  told : ∀ n g, toldTo channels' n g = toldTo channels n g ∨
    (∃ session, HasSeat s session ∧ session.connection = (n, g)) ∧
      toldTo channels' n g = toldTo channels n g ++ snapshots
  seated : ∀ session, HasSeat s' session →
    (HasSeat s session ∧ toldTo channels' session.client session.generation =
      toldTo channels session.client session.generation ++ snapshots) ∨
    channels.sessionAt session.client session.generation = none ∧
      toldTo channels' session.client session.generation = []

section Hears

variable {s s' : Server K SessionRef} {channels channels' : Channels} {n g : ℕ}

/-- Nothing is published, and seats are only given up. -/
theorem hears_nothing (htold : ∀ n g, toldTo channels' n g = toldTo channels n g)
    (hseats : ∀ session, HasSeat s' session → HasSeat s session) :
    Hears [] s s' channels channels' where
  told n g := Or.inl (htold n g)
  seated session hseat := Or.inl ⟨hseats session hseat, by rw [htold, List.append_nil]⟩

theorem hasSeat_of_seats (h : ∀ seat ∈ s'.room.seats, ∃ old ∈ s.room.seats,
    old.session = seat.session) (session : SessionRef) (hseat : HasSeat s' session) :
    HasSeat s session := by
  obtain ⟨seat, hin, hsession⟩ := hseat
  obtain ⟨old, hold, hsame⟩ := h seat hin
  exact ⟨old, hold, hsame.trans hsession⟩

variable [Field K] [LinearOrder K] [IsStrictOrderedRing K]

/-- **A tick** publishes its snapshot. -/
theorem hears_handleTick [FloorRing K] [HasSqrt K] (hlively : Lively s channels)
    (hseated : s.Seated) (toFloat : K → FloatBits) (deltaSeconds : K) :
    Hears (published toFloat deltaSeconds s) s
      (s.handleTick (sessionObjects 0 0) toFloat deltaSeconds channels).1 channels
      (s.handleTick (sessionObjects 0 0) toFloat deltaSeconds channels).2 := by
  have hticked : (ticked deltaSeconds s).room.seats = s.room.seats := (s.room.tick_frame _).1
  have hsame : ∀ session, HasSeat (ticked deltaSeconds s) session ↔ HasSeat s session := by
    intro session
    unfold HasSeat
    rw [hticked]
  have hroster : ((ticked deltaSeconds s).room.players.map (·.1)).Nodup :=
    (hseated.consistent.tick _).roster.keys
  have hlively' : Lively (ticked deltaSeconds s) channels :=
    (hlively.withSeats (by rw [show (s.room.tick _).seats = _ from hticked]; exact fun _ h => h)
      (s.serverTick + 1)).1
  by_cases hstopped : s.stopped = true
  · rw [published_stopped hstopped, Server.handleTick, if_pos hstopped]
    exact hears_nothing (fun _ _ => rfl) fun _ h => h
  have hhandled : s.handleTick (sessionObjects 0 0) toFloat deltaSeconds channels =
      announce 0 0 toFloat (ticked deltaSeconds s) channels := by
    unfold Server.handleTick
    rw [if_neg hstopped]
    rfl
  rw [hhandled]
  by_cases hvalid : (captured toFloat (ticked deltaSeconds s)).Valid
  · rw [published_of_valid hstopped hvalid, announce_of_valid channels hvalid]
    obtain ⟨htold, hseats⟩ := hlively'.announces hroster hvalid 0 0 rfl
    constructor
    · intro n g
      rcases htold n g with hnothing | ⟨⟨session, hseat, hat⟩, hone⟩
      · exact Or.inl hnothing
      · exact Or.inr ⟨⟨session, (hsame session).mp hseat, hat⟩, hone⟩
    · intro session hseat
      obtain ⟨hbefore, hone⟩ := hseats session hseat
      exact Or.inl ⟨(hsame session).mp hbefore, hone⟩
  · rw [published_of_invalid hvalid, announce_of_invalid channels hvalid]
    exact hears_nothing (fun _ _ => rfl) fun session hseat => (hsame session).mp hseat

omit [LinearOrder K] [IsStrictOrderedRing K] in
theorem toldTo_stopSession (session : SessionRef) (n' g' : ℕ) :
    toldTo (s.stopSession (sessionObjects n g) session channels).2 n' g' =
      toldTo channels n' g' :=
  toldTo_stop n g session n' g'

/-- Accepting a connection tells nobody anything: a new session learns its identity only. -/
theorem toldTo_handleAccept (hseated : s.Seated) {link : Link}
    (hlink : (channels n).links g = some link) (hnew : link.serverEnd = none) (n' g' : ℕ) :
    toldTo (s.handleAccept (sessionObjects n g) channels).2 n' g' = toldTo channels n' g' := by
  have hcreated := toldTo_create hlink hnew s.nextSessionId n' g'
  have hserver : (channels.setSession n g { session := { id := s.nextSessionId } }).sessionAt n g =
      some { session := { id := s.nextSessionId } } := by
    rw [Channels.sessionAt_setSession hlink, if_pos ⟨rfl, rfl⟩]
  rcases handleAccept_cases s channels n g with
    ⟨-, hnothing⟩ | ⟨-, ⟨-, hdropped⟩ | ⟨-, hentering⟩⟩
  · rw [hnothing]
  · rw [hdropped, ← hcreated]
    exact toldTo_modifySession (f := fun server => { server with
      session := { server.session with closed := true, socketOpen := false } }) n g
      (fun _ => rfl) n' g'
  rcases enterDefaultRoom_cases (s := { s with
      nextSessionId := s.nextSessionId + 1
      sessions := s.sessions ++ [(s.nextSessionId, (⟨n, g, s.nextSessionId⟩ : SessionRef))] })
    (hseated.of_eq rfl rfl) hserver with ⟨playerId, -, hrefused⟩ | ⟨r', -, -, hsuccess⟩
  · rw [hentering _ hrefused.symm, ← hcreated]
    exact toldTo_stopSession (n := n) (g := g) ⟨n, g, s.nextSessionId⟩ n' g'
  · rw [hentering _ hsuccess.symm, ← hcreated]
    refine (toldTo_modifySession n g (fun server =>
      congrArg snapshotsOf (start_accepted server.session)) n' g').trans ?_
    exact toldTo_modifySession n g (fun server => snapshotsOf_send
      (show MessageType.playerIdentity ≠ .worldStateSnapshot by decide) _ server.session) n' g'

/-- **A connection is accepted**: its session is told nothing yet. -/
theorem hears_handleAccept (hlively : Lively s channels) (hseated : s.Seated)
    {link : Link} (hlink : (channels n).links g = some link) (hnew : link.serverEnd = none) :
    Hears [] s (s.handleAccept (sessionObjects n g) channels).1 channels
      (s.handleAccept (sessionObjects n g) channels).2 := by
  have hnone : channels.sessionAt n g = none := by
    rw [Channels.sessionAt, hlink]
    exact hnew
  have htold := toldTo_handleAccept hseated hlink hnew
  refine ⟨fun n' g' => Or.inl (htold n' g'), ?_⟩
  rintro session ⟨seat, hseat, hsession⟩
  rcases (hlively.handleAccept hseated hlink hnew).seats seat hseat with
    hold | ⟨id, rfl⟩ | ⟨-, old, hold, rfl⟩
  · exact Or.inl ⟨⟨seat, hold, hsession⟩, by rw [htold, List.append_nil]⟩
  · obtain rfl : (⟨n, g, id⟩ : SessionRef) = session := Option.some.inj hsession
    exact Or.inr ⟨hnone, (htold n g).trans (toldTo_none hnone)⟩
  · exact Or.inl ⟨⟨old, hold, hsession⟩, by rw [htold, List.append_nil]⟩

omit [LinearOrder K] [IsStrictOrderedRing K] in
theorem toldTo_closeAll (entries : List (SessionId × SessionRef)) (s : Server K SessionRef)
    (channels : Channels) (n' g' : ℕ) :
    toldTo (s.closeAll (sessionObjects n g) entries channels).2 n' g' = toldTo channels n' g' := by
  induction entries generalizing s channels with
  | nil => rfl
  | cons entry entries ih =>
      exact (ih _ _).trans (toldTo_stopSession (s := s) (n := n) (g := g) entry.2 n' g')

omit [LinearOrder K] [IsStrictOrderedRing K] in
/-- **The server stops**, and tells nobody. -/
theorem hears_stop (hlively : Lively s channels) :
    Hears [] s (s.stop (sessionObjects n g) channels).1 channels
      (s.stop (sessionObjects n g) channels).2 := by
  refine hears_nothing (fun n' g' => ?_) (hasSeat_of_seats fun seat hseat =>
    ⟨seat, (hlively.stop n g).2.seats seat hseat, rfl⟩)
  unfold Server.stop
  split
  · rfl
  · exact toldTo_closeAll s.sessions _ channels n' g'

/-- A session in the middle of a handler, which has told its player nothing of the game. -/
structure Busy (s₀ : Server K SessionRef) (session₀ session : Session) (s : Server K SessionRef) :
    Prop where
  accepted : snapshotsOf session.accepted = snapshotsOf session₀.accepted
  seats : ∀ seat ∈ s.room.seats, ∃ old ∈ s₀.room.seats, old.session = seat.session

variable [HasSqrt K] {s₀ : Server K SessionRef} {session₀ session : Session}

omit [IsStrictOrderedRing K] in
theorem busy_keeps (s₀ : Server K SessionRef) (session₀ : Session) :
    Session.Keeps (Server.callbacks : SessionCallbacks (Server K SessionRef))
      (Busy s₀ session₀) where
  report _ _ h := ⟨h.accepted, h.seats⟩
  queues _ _ _ _ _ h := ⟨h.accepted, h.seats⟩
  close {session s} h := by
    have haccepted : snapshotsOf (session.close Server.callbacks s).1.accepted =
        snapshotsOf session₀.accepted := by
      rw [Session.close_accepted]
      exact h.accepted
    refine ⟨haccepted, fun seat hseat => ?_⟩
    unfold Session.close at hseat
    split at hseat
    · exact h.seats seat hseat
    dsimp only at hseat
    split at hseat
    · exact h.seats seat hseat
    · exact h.seats seat (seats_leave s.room session.id seat hseat).1

omit [IsStrictOrderedRing K] in
/-- **A request** is answered with a pong at most. -/
theorem Busy.dispatch (h : Busy s₀ session₀ session s) {clock : ℕ → UInt64} {clockReads : ℕ}
    {m : Message} (hm : NetworkClient.IsRequest clock clockReads m) :
    Busy s₀ session₀ (Session.dispatchOn Server.callbacks m (session, s)).2.1
      (Session.dispatchOn Server.callbacks m (session, s)).2.2 := by
  cases hm with
  | @ping k hk =>
      rw [Session.dispatchOn_ping]
      exact ⟨(snapshotsOf_send (show MessageType.pong ≠ .worldStateSnapshot by decide) _
        (session.logged _)).trans h.accepted, h.seats⟩
  | @playerInput input hinput =>
      rw [Session.dispatchOn_playerInput Server.callbacks session s hinput (by rfl)]
      refine ⟨h.accepted, fun seat hseat => ?_⟩
      rw [show (s.handlePlayerInput session.id input).room.seats = _ from
        (s.room.applyPlayerInput_frame session.id input).1] at hseat
      obtain ⟨before, hbefore, rfl⟩ := List.mem_map.mp hseat
      obtain ⟨old, hold, hsame⟩ := h.seats before hbefore
      refine ⟨old, hold, hsame.trans ?_⟩
      split <;> rfl

end Hears

section Steps

variable [Field K] [LinearOrder K] [IsStrictOrderedRing K] [FloorRing K] [HasSqrt K]
  {clock : ℕ → ℕ → UInt64} {toFloat : K → FloatBits} {t t' : Arena K}

/-- **Every step** publishes what its event publishes. -/
theorem Arena.Reachable.hears (h : t.Reachable clock) {event : ArenaEvent K}
    (hstep : Arena.step clock toFloat t event = some t') :
    Hears (Arena.publishes toFloat t event) t.server t'.server t.channels t'.channels := by
  have hseated := h.sound.world.seated
  cases Arena.step_cases hstep with
  | client n event hevent hclient =>
      exact hears_nothing (fun n' g => toldTo_congr (Arena.sessionAt_setChannel
        (Channel.clientStep_serverEnd hclient) n' g)) fun _ hseat => hseat
  | established n g hnew =>
      exact hears_nothing (fun n' g' => toldTo_congr (Arena.sessionAt_setChannel
        (Channel.established_serverEnd hnew) n' g')) fun _ hseat => hseat
  | server n g event hevent hserver =>
      obtain ⟨server, server', hhandled⟩ := h.serverStep hevent hserver
        (busy_keeps t.server)
        (fun _ _ _ _ _ hm _ hbusy => hbusy.dispatch hm)
        fun server hat => ⟨rfl, fun seat hseat => ⟨seat, hseat, rfl⟩⟩
      refine hears_nothing (fun n' g' => ?_) (hasSeat_of_seats hhandled.holds.seats)
      rw [toldTo_eq, toldTo_eq, hhandled.after]
      split
      · next hsame =>
          rw [hsame.1, hsame.2, hhandled.before]
          exact hhandled.holds.accepted
      · rfl
  | update n keys =>
      refine hears_nothing (fun n' g => toldTo_congr ?_) fun _ hseat => hseat
      apply Arena.sessionAt_setChannel
      exact fun _ => rfl
  | shutdown n =>
      refine hears_nothing (fun n' g => toldTo_congr ?_) fun _ hseat => hseat
      apply Arena.sessionAt_setChannel
      exact fun _ => rfl
  | accept n g hlink hnew => exact hears_handleAccept h.lively hseated hlink hnew
  | tick deltaSeconds => exact hears_handleTick h.lively hseated toFloat deltaSeconds
  | stop => exact hears_stop h.lively

end Steps

/-! ## What a client shows -/

/-- What becomes of the application of a client: what it shows and what it is delivered comes from
what its sessions were told. -/
structure Displays (told : ℕ → List (WorldStateSnapshot FloatBits)) (a a' : ClientApplication) :
    Prop where
  worldState : ∀ snapshot, a'.clientGameState.worldState = some snapshot →
    a.clientGameState.worldState = some snapshot ∨ ∃ g, snapshot ∈ told g
  deliveries : ∀ delivery ∈ a'.deliveries,
    delivery ∈ a.deliveries ∨ delivery.snapshot ∈ told delivery.generation

section Displays

variable {told : ℕ → List (WorldStateSnapshot FloatBits)} {a a' : ClientApplication}

theorem displays_same (hgame : a'.clientGameState.worldState = a.clientGameState.worldState)
    (hdeliveries : a'.deliveries = a.deliveries) : Displays told a a' :=
  ⟨fun _ hshown => Or.inl (hgame ▸ hshown), fun _ hin => Or.inl (hdeliveries ▸ hin)⟩

theorem displays_forget (a : ClientApplication) : Displays told a a.forget :=
  ⟨nofun, fun _ hin => Or.inl hin⟩

/-- A callback brings a snapshot the session was told. -/
theorem displays_handle (a : ClientApplication) (g : ℕ) {invocation : Invocation}
    (h : ∀ snapshot, invocation = .worldStateSnapshot snapshot → snapshot ∈ told g) :
    Displays told a (a.handle g invocation) := by
  constructor
  · intro shown hshown
    cases invocation with
    | connected => exact Or.inl hshown
    | connectionFailed error => cases hshown
    | disconnected error => cases hshown
    | playerIdentity identity =>
        simp only [ClientApplication.handle, ClientApplication.handlePlayerIdentity] at hshown
        rcases a.clientGameState.applyPlayerIdentity_cases identity with hno | hyes
        · rw [hno] at hshown
          exact Or.inl hshown
        · rw [hyes] at hshown
          cases hshown
    | worldStateSnapshot snapshot =>
        simp only [ClientApplication.handle, ClientApplication.handleWorldStateSnapshot] at hshown
        rcases a.clientGameState.applyWorldStateSnapshot_cases snapshot with hno | ⟨hyes, -⟩
        · rw [hno] at hshown
          exact Or.inl hshown
        · rw [hyes] at hshown
          cases hshown
          exact Or.inr ⟨g, h _ rfl⟩
  · intro delivery hdelivery
    rcases handle_deliveries a g invocation with hsame | ⟨snapshot, hsnapshot, hone⟩
    · exact Or.inl (hsame ▸ hdelivery)
    · rw [hone] at hdelivery
      rcases List.mem_append.mp hdelivery with hold | hnew
      · exact Or.inl hold
      · rw [List.mem_singleton.mp hnew]
        exact Or.inr (h snapshot hsnapshot)

variable [Field K] [LinearOrder K] {clock : ℕ → ℕ → UInt64} {t : Arena K} {n : ℕ}

/-- A callback that is asked for by messages of a connection. -/
theorem World.snapshot_told {s : Server K SessionRef} {channels : Channels}
    (h : World clock s channels) {g : ℕ} {delivered : List Invocation} {invocation : Invocation}
    (hasked : delivered ++ [invocation] <+:
      ((channels n).client.dispatchedIn g).filterMap invocationOf)
    (snapshot : WorldStateSnapshot FloatBits)
    (hsnapshot : invocation = .worldStateSnapshot snapshot) :
    snapshot ∈ toldTo channels n g := by
  obtain ⟨message, hmessage, hinvocation⟩ := List.mem_filterMap.mp
    (hasked.subset (List.mem_append_right _ (List.mem_singleton_self _)))
  have haccepted := ((h.inOrder n).delivers g).2.subset hmessage
  rcases NetworkClient.invocationOf_cases hinvocation with
    ⟨identity, -, rfl⟩ | ⟨snapshot', hsome, rfl⟩
  · cases hsnapshot
  · cases hsnapshot
    exact List.mem_filterMap.mpr ⟨message, haccepted, hsome⟩

/-- **Whatever happens to a client**, it shows what its sessions were told. -/
theorem Arena.Reachable.displays (h : t.Reachable clock)
    (hclock : ∀ i j, i ≤ j → clock n i ≤ clock n j) {event : ClientEvent}
    (hevent : isHonest (.client event) = true) {channel : Channel ClientApplication}
    (hstep : (t.channels n).clientStep (ClientApplication.environment (clock n)) event =
      some channel) :
    Displays (toldTo t.channels n) (t.channels n).application channel.application := by
  by_cases hcall : ∃ call, event = .call call ∧ isConnect call = false
  · -- other calls do not reach the application
    obtain ⟨call, rfl, -⟩ := hcall
    cases hstep
    exact displays_same rfl rfl
  have hhappens := h.sound.world.clientStep_happens hclock (h.sound.following n) hevent
    (fun call hsame => by
      by_contra hno
      exact hcall ⟨call, hsame, by simpa using hno⟩) hstep
  generalize (t.channels n).application = a, channel.application = a' at hhappens
  cases hhappens with
  | idle => exact displays_same rfl rfl
  | lost => exact displays_forget a
  | connects => exact displays_same rfl rfl
  | told hidle hopen hasked hstate =>
      exact displays_handle a _ (h.sound.world.snapshot_told hasked)

end Displays

/-! ## Everybody sees one history -/

/-- What holds of the system and of the snapshots published so far. -/
structure Arena.Abreast (history : List (WorldStateSnapshot FloatBits)) (t : Arena K) : Prop where
  past : ∀ snapshot ∈ history, snapshot.serverTick.toNat ≤ t.server.serverTick.toNat
  increasing : (history.map (·.serverTick.toNat)).Pairwise (· < ·)
  told : ∀ n g, toldTo t.channels n g <:+: history
  seated : ∀ session, HasSeat t.server session →
    toldTo t.channels session.client session.generation <:+ history
  shown : ∀ n snapshot, (t.channels n).application.clientGameState.worldState = some snapshot →
    snapshot ∈ history
  delivered : ∀ n, ∀ delivery ∈ (t.channels n).application.deliveries,
    delivery.snapshot ∈ toldTo t.channels n delivery.generation

section Abreast

variable {history : List (WorldStateSnapshot FloatBits)}

/-- `Update` changes neither what is shown nor what was delivered. -/
theorem displays_update (told : ℕ → List (WorldStateSnapshot FloatBits)) (clock : ℕ → UInt64)
    (keys : Keys) (c : NetworkClient) (a : ClientApplication) :
    Displays told a (ClientApplication.update clock keys c a).2 := by
  have hprobe : (ClientApplication.probeRtt clock c a).2.deliveries = a.deliveries := by
    unfold ClientApplication.probeRtt
    split
    · dsimp only
      split
      · split <;> rfl
      · rfl
    · rfl
  have hsubmit : ∀ c a, (ClientApplication.submitPlayerInput keys c a).2.2.deliveries =
      a.deliveries := by
    intro c a
    unfold ClientApplication.submitPlayerInput
    split
    · rfl
    split
    · rfl
    split
    · rfl
    dsimp only
    split
    · rfl
    split <;> rfl
  refine displays_same (congrArg _ (InterpolatingApplication.update_clientGameState ..)) ?_
  unfold ClientApplication.update
  dsimp only
  split
  · exact (hsubmit _ _).trans hprobe
  · exact (hsubmit _ _).trans hprobe

/-- **More is published**, and clients show what they were told before. -/
theorem Arena.Abreast.hears {t t' : Arena K} (h : t.Abreast history)
    {snapshots : List (WorldStateSnapshot FloatBits)}
    (hhears : Hears snapshots t.server t'.server t.channels t'.channels)
    (hlater : t.server.serverTick.toNat ≤ t'.server.serverTick.toNat)
    (hnew : snapshots = [] ∨ ∃ snapshot, snapshots = [snapshot] ∧
      t.server.serverTick.toNat < snapshot.serverTick.toNat ∧
        snapshot.serverTick = t'.server.serverTick)
    (hdisplays : ∀ n, Displays (toldTo t.channels n) (t.channels n).application
      (t'.channels n).application) : t'.Abreast (history ++ snapshots) := by
  have hgrows : ∀ n g, toldTo t.channels n g <+: toldTo t'.channels n g := by
    intro n g
    rcases hhears.told n g with hsame | ⟨-, hone⟩
    · rw [hsame]
    · rw [hone]
      exact List.prefix_append _ _
  constructor
  · intro snapshot hsnapshot
    rcases List.mem_append.mp hsnapshot with hold | hlast
    · exact (h.past snapshot hold).trans hlater
    · rcases hnew with rfl | ⟨only, rfl, -, htick⟩
      · cases hlast
      · rw [List.mem_singleton.mp hlast, htick]
  · rw [List.map_append, List.pairwise_append]
    rcases hnew with rfl | ⟨only, rfl, hlt, -⟩
    · exact ⟨h.increasing, List.Pairwise.nil, nofun⟩
    · refine ⟨h.increasing, List.pairwise_singleton _ _, fun tick htick tick' htick' => ?_⟩
      obtain ⟨snapshot, hsnapshot, rfl⟩ := List.mem_map.mp htick
      rw [List.map_singleton, List.mem_singleton] at htick'
      rw [htick']
      exact (h.past snapshot hsnapshot).trans_lt hlt
  · intro n g
    rcases hhears.told n g with hsame | ⟨⟨session, hseat, hat⟩, hone⟩
    · rw [hsame]
      exact (h.told n g).trans (List.prefix_append _ _).isInfix
    · -- a session with a seat is up to date
      obtain ⟨rfl, rfl⟩ := Prod.mk.inj hat
      obtain ⟨before, hbefore⟩ := h.seated session hseat
      rw [hone]
      refine List.IsSuffix.isInfix ⟨before, ?_⟩
      rw [← List.append_assoc, hbefore]
  · intro session hseat
    rcases hhears.seated session hseat with ⟨hbefore, hone⟩ | ⟨-, hnone⟩
    · obtain ⟨before, hsplit⟩ := h.seated session hbefore
      rw [hone]
      refine ⟨before, ?_⟩
      rw [← List.append_assoc, hsplit]
    · rw [hnone]
      exact List.nil_suffix
  · intro n snapshot hshown
    rcases (hdisplays n).worldState snapshot hshown with hold | ⟨g, htold⟩
    · exact List.mem_append_left _ (h.shown n snapshot hold)
    · exact List.mem_append_left _ ((h.told n g).subset htold)
  · intro n delivery hdelivery
    rcases (hdisplays n).deliveries delivery hdelivery with hold | htold
    · exact (hgrows n _).subset (h.delivered n delivery hold)
    · exact (hgrows n _).subset htold

/-- Two clients that show one tick show one snapshot. -/
theorem Arena.Abreast.shown_same {t : Arena K} (h : t.Abreast history) {n n' : ℕ}
    {snapshot snapshot' : WorldStateSnapshot FloatBits}
    (hshown : (t.channels n).application.clientGameState.worldState = some snapshot)
    (hshown' : (t.channels n').application.clientGameState.worldState = some snapshot')
    (htick : snapshot.serverTick = snapshot'.serverTick) : snapshot = snapshot' :=
  List.inj_on_of_nodup_map (h.increasing.imp Nat.ne_of_lt) (h.shown n snapshot hshown)
    (h.shown n' snapshot' hshown') (congrArg UInt64.toNat htick)

end Abreast

section Runs

variable [Field K] [LinearOrder K]

omit [LinearOrder K] in
theorem Arena.abreast_initial : Arena.Abreast [] (Arena.initial : Arena K) where
  past := nofun
  increasing := List.Pairwise.nil
  told _ _ := List.nil_infix
  seated := nofun
  shown := nofun
  delivered := nofun

variable [IsStrictOrderedRing K] [FloorRing K] [HasSqrt K] {clock : ℕ → ℕ → UInt64}
  {toFloat : K → FloatBits} {t t' : Arena K} {history : List (WorldStateSnapshot FloatBits)}

theorem serverTick_handleTick_running {s : Server K SessionRef} (h : ¬ s.stopped = true)
    (toFloat : K → FloatBits) (deltaSeconds : K) (channels : Channels) :
    (s.handleTick (sessionObjects 0 0) toFloat deltaSeconds channels).1.serverTick =
      s.serverTick + 1 := by
  unfold Server.handleTick
  rw [if_neg h]
  unfold Server.tickDefaultRoom
  dsimp only
  generalize (if deltaSeconds > Server.maxServerTickDeltaSeconds then
    Server.maxServerTickDeltaSeconds else deltaSeconds) = capped
  split
  · rfl
  · rfl

/-- **What is published is new**: it has the tick the server has reached. -/
theorem Arena.Reachable.publishes_new (h : t.Reachable clock) {event : ArenaEvent K}
    (hticks : event.isTick = true → t.server.serverTick.toNat + 1 < 2 ^ 64)
    (hstep : Arena.step clock toFloat t event = some t') :
    t.server.serverTick.toNat ≤ t'.server.serverTick.toNat ∧
      (Arena.publishes toFloat t event = [] ∨ ∃ snapshot,
        Arena.publishes toFloat t event = [snapshot] ∧
          t.server.serverTick.toNat < snapshot.serverTick.toNat ∧
            snapshot.serverTick = t'.server.serverTick) := by
  cases Arena.step_cases hstep with
  | client n event hevent hclient => exact ⟨Nat.le_refl _, Or.inl rfl⟩
  | established n g hnew => exact ⟨Nat.le_refl _, Or.inl rfl⟩
  | server n g event hevent hserver =>
      obtain ⟨-, htick⟩ := h.sound.serverStep hevent hserver
      exact ⟨(congrArg UInt64.toNat htick).ge, Or.inl rfl⟩
  | update n keys => exact ⟨Nat.le_refl _, Or.inl rfl⟩
  | shutdown n => exact ⟨Nat.le_refl _, Or.inl rfl⟩
  | accept n g hlink hnew =>
      exact ⟨(congrArg UInt64.toNat (serverTick_handleAccept (sessionObjects n g) ..)).ge,
        Or.inl rfl⟩
  | tick deltaSeconds =>
      by_cases hstopped : t.server.stopped = true
      · simp only [Server.handleTick, if_pos hstopped]
        exact ⟨Nat.le_refl _, Or.inl (published_stopped hstopped)⟩
      have hnext : (t.server.serverTick + 1).toNat = t.server.serverTick.toNat + 1 := by
        rw [UInt64.toNat_add]
        exact Nat.mod_eq_of_lt (hticks rfl)
      dsimp only
      rw [serverTick_handleTick_running hstopped, hnext]
      refine ⟨Nat.le_succ _, ?_⟩
      by_cases hvalid : (captured toFloat (ticked deltaSeconds t.server)).Valid
      · refine Or.inr ⟨_, published_of_valid hstopped hvalid, ?_, rfl⟩
        show _ < (t.server.serverTick + 1).toNat
        omega
      · exact Or.inl (published_of_invalid hvalid)
  | stop =>
      exact ⟨(congrArg UInt64.toNat (serverTick_stop (sessionObjects 0 0) ..)).ge, Or.inl rfl⟩

/-- **Every step** keeps everybody abreast of the history. -/
theorem Arena.Abreast.step (h : t.Abreast history) (hreachable : t.Reachable clock)
    (hclock : ∀ n i j, i ≤ j → clock n i ≤ clock n j) {event : ArenaEvent K}
    (hticks : event.isTick = true → t.server.serverTick.toNat + 1 < 2 ^ 64)
    (hstep : Arena.step clock toFloat t event = some t') :
    t'.Abreast (history ++ Arena.publishes toFloat t event) := by
  obtain ⟨hlater, hnew⟩ := hreachable.publishes_new hticks hstep
  apply h.hears (hreachable.hears hstep) hlater hnew
  intro n
  -- only the client that moves shows anything else
  have hone : ∀ (m : ℕ) (channel : Channel ClientApplication),
      Displays (toldTo t.channels m) (t.channels m).application channel.application →
        Displays (toldTo t.channels n) (t.channels n).application
          (Function.update t.channels m channel n).application := by
    intro m channel hdisplays
    by_cases hn : n = m
    · subst hn
      rw [Function.update_self]
      exact hdisplays
    · rw [Function.update_of_ne hn]
      exact displays_same rfl rfl
  have hworld := hreachable.sound.world
  cases Arena.step_cases hstep with
  | client m event hevent hclient =>
      exact hone m _ (hreachable.displays (hclock m) hevent hclient)
  | established m g hunknown => exact hone m _ (displays_same rfl rfl)
  | server m g event hevent hserver =>
      rw [Arena.application_serverStep hserver n]
      exact displays_same rfl rfl
  | update m keys => exact hone m _ (displays_update _ (clock m) keys _ _)
  | shutdown m => exact hone m _ (displays_forget _)
  | accept m g hlink hnone =>
      rw [(hworld.handleAccept hlink hnone).2.application n]
      exact displays_same rfl rfl
  | tick deltaSeconds =>
      rw [(hworld.handleTick 0 0 toFloat deltaSeconds (hticks rfl)).2.application n]
      exact displays_same rfl rfl
  | stop =>
      rw [(hworld.stop 0 0).2.application n]
      exact displays_same rfl rfl

/-- **Every run** keeps everybody abreast of what it publishes. -/
theorem Arena.abreast_of_run (hclock : ∀ n i j, i ≤ j → clock n i ≤ clock n j)
    {events : List (ArenaEvent K)} (hticks : events.countP ArenaEvent.isTick < 2 ^ 64)
    (hrun : runFrom (Arena.step clock toFloat) Arena.initial events = some t) :
    t.Reachable clock ∧ t.Abreast (Arena.history clock toFloat Arena.initial events) := by
  obtain ⟨hreachable, habreast, -⟩ := Arena.invariant_of_run hclock
    (Arena.publishes toFloat) (I := Arena.Abreast) Arena.abreast_initial
    (fun before t event t' hreachable habreast hnext hstep =>
      habreast.step hreachable hclock hnext hstep) hticks hrun
  exact ⟨hreachable, habreast⟩

/-- **There is one history, and everybody shows it.** In every run of fewer than 2^64 ticks, with
monotone clocks and as many connection attempts as `NetworkClient.Counts` allows, the snapshots the
server publishes have increasing ticks. What the session of a connection was told is a stretch of
them without gaps, up to the last one while the session has a seat. Every snapshot an application is
delivered was told to the session of that connection, and what a client shows is a snapshot of the
history; so two clients that show snapshots of one tick show the same snapshot. -/
theorem one_history (clock : ℕ → ℕ → UInt64) (toFloat : K → FloatBits)
    (hclock : ∀ n i j, i ≤ j → clock n i ≤ clock n j) (events : List (ArenaEvent K))
    (hticks : events.countP ArenaEvent.isTick < 2 ^ 64) (t : Arena K)
    (hrun : runFrom (Arena.step clock toFloat) Arena.initial events = some t) :
    let history := Arena.history clock toFloat Arena.initial events
    (history.map (·.serverTick.toNat)).Pairwise (· < ·) ∧
    (∀ n g, toldTo t.channels n g <:+: history) ∧
    (∀ session, HasSeat t.server session →
      toldTo t.channels session.client session.generation <:+ history) ∧
    (∀ n, ∀ delivery ∈ (t.channels n).application.deliveries,
      delivery.snapshot ∈ toldTo t.channels n delivery.generation) ∧
    (∀ n snapshot, (t.channels n).application.clientGameState.worldState = some snapshot →
      snapshot ∈ history) ∧
    ∀ n n' snapshot snapshot',
      (t.channels n).application.clientGameState.worldState = some snapshot →
        (t.channels n').application.clientGameState.worldState = some snapshot' →
          snapshot.serverTick = snapshot'.serverTick → snapshot = snapshot' := by
  obtain ⟨-, habreast⟩ := Arena.abreast_of_run hclock hticks hrun
  exact ⟨habreast.increasing, habreast.told, habreast.seated, habreast.delivered, habreast.shown,
    fun n n' snapshot snapshot' hshown hshown' htick => habreast.shown_same hshown hshown' htick⟩

/-- The theorem on a run in which a snapshot is shown. -/
theorem one_history_firstSnapshot :
    ∃ t, runFrom (Arena.step (fun _ _ => 0) nearestFloat) Arena.initial firstSnapshot = some t ∧
      ∃ snapshot, (t.channels 0).application.clientGameState.worldState = some snapshot ∧
        snapshot ∈ Arena.history (fun _ _ => 0) nearestFloat Arena.initial firstSnapshot := by
  have hshown : (runFrom (Arena.step (fun _ _ => 0) nearestFloat) Arena.initial firstSnapshot).map
      (fun t => (t.channels 0).application.clientGameState.worldState.isSome) = some true := by
    decide +kernel
  obtain ⟨t, hrun, hsome⟩ := Option.map_eq_some_iff.mp hshown
  obtain ⟨snapshot, hsnapshot⟩ := Option.isSome_iff_exists.mp hsome
  obtain ⟨-, -, -, -, hhistory, -⟩ := one_history (fun _ _ => 0) nearestFloat
    (fun _ _ _ _ => UInt64.le_refl 0) firstSnapshot (by decide) t hrun
  exact ⟨t, hrun, snapshot, hsnapshot, hhistory 0 snapshot hsnapshot⟩

/-- **Whoever keeps its seat misses nothing.** From any state that can be reached, a session that
has a seat then and still has it after a number of events was told exactly the snapshots published
in between, in order. (There are fewer than 2^64 ticks and, on every client, successful calls of
`Connect` and `Disconnect`, see `NetworkClient.Counts`; clocks are monotone.) -/
theorem seated_session_misses_nothing (clock : ℕ → ℕ → UInt64) (toFloat : K → FloatBits)
    (hclock : ∀ n i j, i ≤ j → clock n i ≤ clock n j) (events events' : List (ArenaEvent K))
    (hticks : (events ++ events').countP ArenaEvent.isTick < 2 ^ 64) (t t' : Arena K)
    (hrun : runFrom (Arena.step clock toFloat) Arena.initial events = some t)
    (hrun' : runFrom (Arena.step clock toFloat) t events' = some t') (session : SessionRef)
    (hseat : HasSeat t.server session) (hseat' : HasSeat t'.server session) :
    toldTo t'.channels session.client session.generation =
      toldTo t.channels session.client session.generation ++
        Arena.history clock toFloat t events' := by
  obtain ⟨hreachable, hcounted⟩ := Arena.reachable_of_run hclock
    ((List.countP_append ▸ Nat.le_add_right _ _).trans_lt hticks) hrun
  rw [List.countP_append] at hticks
  -- the player of the session is never taken back, so its connection is never new again
  obtain ⟨player, hplayer⟩ : ∃ player, t.server.assigned session = some player := by
    obtain ⟨seat, hin, hsession⟩ := hseat
    obtain ⟨session', hsession', -, hassigned⟩ :=
      hreachable.sound.world.seated.assigned seat hin
    obtain rfl : session = session' := Option.some.inj (hsession.symm.trans hsession')
    exact ⟨_, hassigned⟩
  obtain ⟨-, ⟨-, htold⟩, -⟩ := hreachable.run hclock (Arena.publishes toFloat)
    (I := fun before t₁ => t₁.server.assigned session = some player ∧
      (HasSeat t₁.server session → toldTo t₁.channels session.client session.generation =
        toldTo t.channels session.client session.generation ++ before))
    (fun before t₁ event t₂ hreachable₁ hbefore hnext hstep => by
      obtain ⟨hknown, htold⟩ := hbefore
      refine ⟨hreachable₁.assigned hnext hstep hknown, fun hseat₂ => ?_⟩
      rcases (hreachable₁.hears hstep).seated session hseat₂ with ⟨hseat₁, hone⟩ | ⟨hnone, -⟩
      · rw [hone, htold hseat₁, List.append_assoc]
      · obtain ⟨server, hserver, -⟩ := hreachable₁.sound.world.known session player hknown
        rw [hserver] at hnone
        cases hnone)
    [] ⟨hplayer, fun _ => (List.append_nil _).symm⟩ (by omega) hrun'
  exact htold hseat'

/-- The theorem on a player that has entered and is told of the next tick. -/
theorem seated_session_misses_nothing_entered :
    ∃ t t', runFrom (Arena.step (fun _ _ => 0) nearestFloat) Arena.initial
        (firstSnapshot.take 5) = some t ∧
      runFrom (Arena.step (fun _ _ => 0) nearestFloat) t [.tick (1 / 60)] = some t' ∧
        toldTo t'.channels 0 1 =
          toldTo t.channels 0 1 ++
            Arena.history (fun _ _ => 0) nearestFloat t [.tick (1 / 60)] := by
  have hseats : (runFrom (Arena.step (fun _ _ => 0) nearestFloat) Arena.initial
      (firstSnapshot.take 5)).map (fun t => (decide (HasSeat t.server ⟨0, 1, 1⟩),
        (runFrom (Arena.step (fun _ _ => 0) nearestFloat) t [.tick (1 / 60)]).map
          fun t' => decide (HasSeat t'.server ⟨0, 1, 1⟩))) = some (true, some true) := by
    decide +kernel
  obtain ⟨t, hrun, hboth⟩ := Option.map_eq_some_iff.mp hseats
  obtain ⟨hseat, hlater⟩ := Prod.mk.inj hboth
  obtain ⟨t', hrun', hseat'⟩ := Option.map_eq_some_iff.mp hlater
  exact ⟨t, t', hrun, hrun', seated_session_misses_nothing (fun _ _ => 0) nearestFloat
    (fun _ _ _ _ => UInt64.le_refl 0) _ _ (by decide) t t' hrun hrun' ⟨0, 1, 1⟩
    (of_decide_eq_true hseat) (of_decide_eq_true hseat')⟩

end Runs

end NetworkArena.System
