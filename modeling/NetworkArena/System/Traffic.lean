/-
# NetworkArena.System.Traffic -- the record of a client's connections

The record of a client (`traffic`) has the attempts that `Connect` has started and the messages that
were sent and received, as they came. What it has behind the last start are the messages of the
client's last connection: those accepted in their order, those handed over in theirs, and each where
it came among the others (`Recorded`). The record is only ever added to (`record_grows`).
-/
import NetworkArena.System.EveryEnd
import Mathlib.Data.List.DropRight

namespace NetworkArena.System

open NetworkArena.Foundation
open NetworkArena.Shared
open NetworkArena.Server
open NetworkArena.Client

/-! ## Parts of a record -/

/-- The attempt that starts. -/
def startOf : Traffic → Option ℕ
  | .started g => some g
  | _ => none

/-- The message that goes out. -/
def sentOf : Traffic → Option Message
  | .sent message => some message
  | _ => none

/-- The message that comes in, and how often the clock had been read. -/
def receivedOf : Traffic → Option (Message × ℕ)
  | .received message clockReads => some (message, clockReads)
  | _ => none

/-- The last attempt that was started, or 0. -/
def lastStart (traffic : List Traffic) : ℕ := ((traffic.filterMap startOf).getLast?).getD 0

/-- What has happened since the last start. -/
def sinceStart (traffic : List Traffic) : List Traffic :=
  traffic.rtakeWhile fun item => (startOf item).isNone

section Parts

variable {traffic : List Traffic} {item : Traffic} {g : ℕ}

@[simp] theorem lastStart_started : lastStart (traffic ++ [.started g]) = g := by
  simp [lastStart, startOf]

@[simp] theorem sinceStart_started : sinceStart (traffic ++ [.started g]) = [] :=
  List.rtakeWhile_concat_neg _ _ _ (by simp [startOf])

theorem lastStart_concat (h : startOf item = none) :
    lastStart (traffic ++ [item]) = lastStart traffic := by
  simp [lastStart, h]

theorem sinceStart_concat (h : startOf item = none) :
    sinceStart (traffic ++ [item]) = sinceStart traffic ++ [item] :=
  List.rtakeWhile_concat_pos _ _ _ (by simp [h])

end Parts

/-! ## The last connection -/

/-- The record of a client has its last connection behind the last start. -/
structure Recorded (c : NetworkClient) : Prop where
  sentUntil : ∀ p ∈ c.accepted, p.1 ≤ lastStart c.traffic
  receivedUntil : ∀ p ∈ c.dispatched, p.1 ≤ lastStart c.traffic
  past : lastStart c.traffic ≤ c.connectionGeneration
  current : c.connectionState ≠ .disconnected → lastStart c.traffic = c.connectionGeneration
  sent : (sinceStart c.traffic).filterMap sentOf = c.acceptedIn (lastStart c.traffic)
  received : ((sinceStart c.traffic).filterMap receivedOf).map (·.1) =
    c.dispatchedIn (lastStart c.traffic)

section Recorded

variable {c c' : NetworkClient}

theorem Recorded.of_eq (h : Recorded c) (haccepted : c'.accepted = c.accepted)
    (hdispatched : c'.dispatched = c.dispatched) (htraffic : c'.traffic = c.traffic)
    (hpast : c.connectionGeneration ≤ c'.connectionGeneration)
    (hcurrent : c'.connectionState ≠ .disconnected →
      c.connectionState ≠ .disconnected ∧ c'.connectionGeneration = c.connectionGeneration) :
    Recorded c' := by
  constructor
  · rw [haccepted, htraffic]
    exact h.sentUntil
  · rw [hdispatched, htraffic]
    exact h.receivedUntil
  · rw [htraffic]
    exact h.past.trans hpast
  · intro hstate
    rw [htraffic]
    exact (h.current (hcurrent hstate).1).trans (hcurrent hstate).2.symm
  · rw [NetworkClient.acceptedIn, haccepted, htraffic]
    exact h.sent
  · rw [NetworkClient.dispatchedIn, hdispatched, htraffic]
    exact h.received

/-- A client that sends and receives nothing keeps its record. -/
theorem Recorded.same (h : Recorded c) (haccepted : c'.accepted = c.accepted)
    (hdispatched : c'.dispatched = c.dispatched) (htraffic : c'.traffic = c.traffic)
    (hgeneration : c'.connectionGeneration = c.connectionGeneration)
    (hstate : c'.connectionState = c.connectionState) : Recorded c' := by
  apply h.of_eq haccepted hdispatched htraffic hgeneration.ge
  intro hconnected
  rw [hstate] at hconnected
  exact ⟨hconnected, hgeneration⟩

theorem recorded_initial : Recorded {} :=
  ⟨nofun, nofun, Nat.le_refl 0, fun h => absurd rfl h, rfl, rfl⟩

/-- A message of another generation does not count. -/
theorem filter_eq_nil_of_lt {g : ℕ} {entries : List (ℕ × Message)}
    (h : ∀ p ∈ entries, p.1 < g) : (entries.filter (·.1 = g)).map (·.2) = [] := by
  rw [List.filter_eq_nil_iff.mpr, List.map_nil]
  intro p hp hsame
  exact absurd (of_decide_eq_true hsame) (Nat.ne_of_lt (h p hp))

/-- **A connection attempt** is a new start. -/
theorem Recorded.connect (h : Recorded c) (host : String) (port : UInt16)
    (callbacks : SuppliedCallbacks) : Recorded (c.connect host port callbacks).2 := by
  unfold NetworkClient.connect
  split
  · exact h
  split
  · exact h
  have hsent : ∀ p ∈ c.accepted, p.1 < c.connectionGeneration + 1 := fun p hp =>
    Nat.lt_succ_of_le ((h.sentUntil p hp).trans h.past)
  have hreceived : ∀ p ∈ c.dispatched, p.1 < c.connectionGeneration + 1 := fun p hp =>
    Nat.lt_succ_of_le ((h.receivedUntil p hp).trans h.past)
  constructor
  · intro p hp
    rw [lastStart_started]
    exact Nat.le_of_lt (hsent p hp)
  · intro p hp
    rw [lastStart_started]
    exact Nat.le_of_lt (hreceived p hp)
  · exact lastStart_started.le
  · exact fun _ => lastStart_started
  · rw [lastStart_started, sinceStart_started]
    exact (filter_eq_nil_of_lt hsent).symm
  · rw [lastStart_started, sinceStart_started]
    exact (filter_eq_nil_of_lt hreceived).symm

theorem Recorded.disconnect (h : Recorded c) : Recorded c.disconnect.2 := by
  unfold NetworkClient.disconnect
  split
  · exact h
  · exact h.of_eq rfl rfl rfl (Nat.le_succ _) fun hstate => absurd rfl hstate

/-- **A message is sent.** -/
theorem Recorded.send (h : Recorded c) (type : MessageType) (payload : List UInt8) :
    Recorded (c.send type payload).2 := by
  rcases NetworkClient.send_cases c type payload with
    ⟨haccepts, hsend⟩ | ⟨-, diagnostics, hsend⟩
  swap
  · rw [hsend]
    exact h.same rfl rfl rfl rfl rfl
  have hcurrent := h.current (by rw [haccepts.connected]; decide)
  have hstart : lastStart (c.enqueue ⟨type, payload⟩).traffic = lastStart c.traffic :=
    lastStart_concat rfl
  have hsince : sinceStart (c.enqueue ⟨type, payload⟩).traffic =
      sinceStart c.traffic ++ [.sent ⟨type, payload⟩] := sinceStart_concat rfl
  have haccepted := NetworkClient.acceptedIn_enqueue c ⟨type, payload⟩ c.connectionGeneration
  rw [if_pos rfl] at haccepted
  rw [hsend]
  constructor
  · rw [hstart]
    intro p hp
    rcases List.mem_append.mp hp with hp | hp
    · exact h.sentUntil p hp
    · rw [List.mem_singleton.mp hp, hcurrent]
  · rw [hstart]
    exact h.receivedUntil
  · rw [hstart]
    exact h.past
  · exact fun _ => hstart.trans hcurrent
  · rw [hstart, hsince, hcurrent, haccepted, List.filterMap_append, h.sent, hcurrent]
    rfl
  · rw [hstart, hsince, List.filterMap_append, List.map_append, h.received]
    exact List.append_nil _

theorem recorded_survives : NetworkClient.Survives Recorded where
  connect host port callbacks h := h.connect host port callbacks
  disconnect h := h.disconnect
  send type payload h := h.send type payload
  report _ h := h.same rfl rfl rfl rfl rfl
  readClock _ h := h.same rfl rfl rfl rfl rfl
  invocations _ h := h.same rfl rfl rfl rfl rfl

/-- **A message is received.** -/
theorem Recorded.dispatch {α : Type} (h : Recorded c) (env : ClientEnvironment α)
    (message : Message) (a : α) (hconnected : c.connectionState = .connected) :
    Recorded (NetworkClient.dispatchOn env message (c, a)).2.1 := by
  obtain ⟨identity, rtt, posted, clockReads, diagnostics, hafter, -⟩ :=
    NetworkClient.dispatchOn_eq env message c a
  have hcurrent := h.current (by rw [hconnected]; decide)
  have hstart : lastStart (c.traffic ++ [.received message c.clockReads]) = lastStart c.traffic :=
    lastStart_concat rfl
  have hsince : sinceStart (c.traffic ++ [.received message c.clockReads]) =
      sinceStart c.traffic ++ [.received message c.clockReads] := sinceStart_concat rfl
  rw [hafter]
  constructor
  · intro p hp
    exact hstart ▸ h.sentUntil p hp
  · intro p hp
    show p.1 ≤ lastStart (c.traffic ++ [.received message c.clockReads])
    rw [hstart]
    rcases List.mem_append.mp hp with hp | hp
    · exact h.receivedUntil p hp
    · rw [List.mem_singleton.mp hp, hcurrent]
  · exact hstart.le.trans h.past
  · exact fun _ => hstart.trans hcurrent
  · show (sinceStart (c.traffic ++ [.received message c.clockReads])).filterMap sentOf =
      c.acceptedIn (lastStart (c.traffic ++ [.received message c.clockReads]))
    rw [hstart, hsince, List.filterMap_append, h.sent]
    exact List.append_nil _
  · let c' := { c with dispatched := c.dispatched ++ [(c.connectionGeneration, message)] }
    have happended : c'.dispatched =
        c.dispatched ++ [message].map (c.connectionGeneration, ·) := rfl
    have hdispatched := NetworkClient.dispatchedIn_append happended (g := c.connectionGeneration)
    rw [if_pos rfl, ← hcurrent] at hdispatched
    show ((sinceStart (c.traffic ++ [.received message c.clockReads])).filterMap
      receivedOf).map (·.1) =
        c'.dispatchedIn (lastStart (c.traffic ++ [.received message c.clockReads]))
    rw [hstart, hsince, hdispatched, List.filterMap_append, List.map_append, h.received]
    rfl

/-- **Every client records its last connection.** -/
theorem clientInvariant_recorded {α : Type} (env : ClientEnvironment α) :
    ClientInvariant env Recorded where
  survives := recorded_survives
  handled := {
    weaken := fun h => h
    calls := fun calls h => recorded_survives.calls env.clock calls h
    reads := fun _ _ h => h.same rfl rfl rfl rfl rfl
    dispatch := fun message a hconnected h => h.dispatch env message a hconnected
    buffer := fun _ h => h.same rfl rfl rfl rfl rfl
    resolved := fun hstate h =>
      h.of_eq rfl rfl rfl (Nat.le_refl _) fun _ => ⟨by rw [hstate]; decide, rfl⟩
    connected := fun hstate h =>
      h.of_eq rfl rfl rfl (Nat.le_refl _) fun _ => ⟨by rw [hstate]; decide, rfl⟩
    failed := fun _ _ h => h.of_eq rfl rfl rfl (Nat.le_refl _) fun hstate => absurd rfl hstate
    ended := fun _ _ h => h.of_eq rfl rfl rfl (Nat.le_refl _) fun hstate => absurd rfl hstate }
  owed _ _ _ _ _ _ _ _ h := h.same rfl rfl rfl rfl rfl

end Recorded

/-! ## Records grow -/

section Growth

variable {before : List Traffic} {c c' : NetworkClient}

theorem grows_survives (before : List Traffic) :
    NetworkClient.Survives fun c => before <+: c.traffic where
  connect {c} host port callbacks h := by
    unfold NetworkClient.connect
    split
    · exact h
    split
    · exact h
    · exact h.trans (List.prefix_append _ _)
  disconnect {c} h := by
    unfold NetworkClient.disconnect
    split
    · exact h
    · exact h
  send {c} type payload h := by
    rcases NetworkClient.send_cases c type payload with ⟨-, hsend⟩ | ⟨-, diagnostics, hsend⟩
    · rw [hsend]
      exact h.trans (List.prefix_append _ _)
    · rw [hsend]
      exact h
  report _ h := h
  readClock _ h := h
  invocations _ h := h

/-- **A record is only added to.** -/
theorem clientInvariant_grows {α : Type} (env : ClientEnvironment α) (before : List Traffic) :
    ClientInvariant env fun c => before <+: c.traffic where
  survives := grows_survives before
  handled := {
    weaken := fun h => h
    calls := fun calls h => (grows_survives before).calls env.clock calls h
    reads := fun _ _ h => h
    dispatch := fun {c} message a _ h => by
      obtain ⟨identity, rtt, posted, clockReads, diagnostics, hafter, -⟩ :=
        NetworkClient.dispatchOn_eq env message c a
      rw [hafter]
      exact h.trans (List.prefix_append _ _)
    buffer := fun _ h => h
    resolved := fun _ h => h
    connected := fun _ h => h
    failed := fun _ _ h => h
    ended := fun _ _ h => h }
  owed _ _ _ _ _ _ _ _ h := h

end Growth

/-! ## Every client -/

/-- What the record of a client has behind the last start is its connection of generation `g`, and
that is the last one it had. What has come in on it are the first messages that the server has sent,
and the server has taken in the first ones of those that went out. -/
structure LastConnection (channel : Channel ClientApplication) (g : ℕ) : Prop where
  last : ∀ p ∈ channel.client.accepted ++ channel.client.dispatched, p.1 ≤ g
  current : channel.client.connectionState ≠ .disconnected →
    g = channel.client.connectionGeneration
  sent : (sinceStart channel.client.traffic).filterMap sentOf = channel.client.acceptedIn g
  received : ((sinceStart channel.client.traffic).filterMap receivedOf).map (·.1) =
    channel.client.dispatchedIn g
  comes : channel.client.dispatchedIn g <+: Link.accepted (channel.links g)
  reaches : Link.dispatched (channel.links g) <+: channel.client.acceptedIn g

section Runs

variable {K : Type} [Field K] [LinearOrder K] [IsStrictOrderedRing K] [FloorRing K] [HasSqrt K]
  {clock : ℕ → ℕ → UInt64} {toFloat : K → FloatBits} {t t' : Arena K}

/-- **Every client records its last connection**, in every run. -/
theorem Arena.recorded_of_run (hclock : ∀ n i j, i ≤ j → clock n i ≤ clock n j)
    {events : List (ArenaEvent K)} (hticks : events.countP ArenaEvent.isTick < 2 ^ 64)
    (hrun : runFrom (Arena.step clock toFloat) Arena.initial events = some t) (n : ℕ) :
    Recorded (t.channels n).client := by
  obtain ⟨-, hrecorded, -⟩ := Arena.invariant_of_run hclock (A := Unit)
    (fun _ _ => []) (I := fun _ t => ∀ n, Recorded (t.channels n).client)
    (fun _ => recorded_initial)
    (fun before t event t' hreachable hrecorded hnext hstep => hreachable.allClients hnext hstep
      (fun n => clientInvariant_recorded (ClientApplication.environment (clock n))) hrecorded)
    hticks hrun
  exact hrecorded n

omit [IsStrictOrderedRing K] [FloorRing K] [HasSqrt K] in
theorem Recorded.lastConnection {n : ℕ} (h : Recorded (t.channels n).client)
    (hreachable : t.Reachable clock) :
    LastConnection (t.channels n) (lastStart (t.channels n).client.traffic) where
  last p hp := (List.mem_append.mp hp).elim (h.sentUntil p) (h.receivedUntil p)
  current := h.current
  sent := h.sent
  received := h.received
  comes := ((hreachable.sound.world.inOrder n).delivers _).2
  reaches := ((hreachable.sound.world.inOrder n).delivers _).1

/-- **The record of a client grows**, from any reachable state on. -/
theorem Arena.Reachable.record_grows (h : t.Reachable clock)
    (hclock : ∀ n i j, i ≤ j → clock n i ≤ clock n j) {events : List (ArenaEvent K)}
    (hticks : t.server.serverTick.toNat + events.countP ArenaEvent.isTick < 2 ^ 64)
    (hrun : runFrom (Arena.step clock toFloat) t events = some t') (n : ℕ) :
    (t.channels n).client.traffic <+: (t'.channels n).client.traffic := by
  obtain ⟨-, hgrown, -⟩ := h.run hclock (A := Unit) (fun _ _ => [])
    (I := fun _ t' => ∀ n, (t.channels n).client.traffic <+: (t'.channels n).client.traffic)
    (fun before t₁ event t₂ hreachable hgrown hnext hstep =>
      hreachable.allClients (P := fun n c => (t.channels n).client.traffic <+: c.traffic) hnext
        hstep (fun n => clientInvariant_grows (ClientApplication.environment (clock n)) _) hgrown)
    [] (fun _ => List.prefix_refl _) hticks hrun
  exact hgrown n

end Runs

end NetworkArena.System
