/-
# NetworkArena.System.Monitor -- the packet log of a client

The packet log of a client has room for 128 messages. It holds the latest of what the record of the
client has since the last start (`Logged`), and goes on holding them after that connection is gone.
The network window shows the last eight.
-/
import NetworkArena.System.Traffic
import NetworkArena.Client.NetworkWindow

namespace NetworkArena.System

open NetworkArena.Foundation
open NetworkArena.Shared
open NetworkArena.Server
open NetworkArena.Client

/-- What the packet log makes of an item of the record. -/
def packetLogEntry : Traffic → Option PacketLogEntry
  | .started _ => none
  | .sent message => some ⟨.send, message.type, message.payload.length⟩
  | .received message _ => some ⟨.receive, message.type, message.payload.length⟩

/-! ## The log of a client -/

/-- A client logs what it has sent and received since the last start. -/
def Logged (c : NetworkClient) : Prop :=
  c.packetLog =
    ((sinceStart c.traffic).filterMap packetLogEntry).rtake NetworkClient.maxPacketLogEntries

section Logged

variable {c c' : NetworkClient}

theorem Logged.of_eq (h : Logged c) (htraffic : c'.traffic = c.traffic)
    (hlog : c'.packetLog = c.packetLog) : Logged c' := by
  unfold Logged
  rw [htraffic, hlog]
  exact h

theorem logged_initial : Logged {} := rfl

/-- Something is recorded and logged. -/
theorem Logged.push (h : Logged c) (item : Traffic) {entry : PacketLogEntry}
    (hitem : packetLogEntry item = some entry) (hstart : startOf item = none)
    (htraffic : c'.traffic = c.traffic ++ [item])
    (hlog : c'.packetLog = (c.recordPacketLog entry).packetLog) : Logged c' := by
  have hentries : [item].filterMap packetLogEntry = [entry] := by simp [hitem]
  unfold Logged
  rw [htraffic, sinceStart_concat hstart, List.filterMap_append, hentries,
    ← pushLatest_rtake (by decide), ← h]
  exact hlog

theorem logged_survives : NetworkClient.Survives Logged where
  connect {c} host port callbacks h := by
    unfold NetworkClient.connect
    split
    · exact h
    split
    · exact h
    · unfold Logged
      dsimp only
      rw [sinceStart_started]
      rfl
  disconnect {c} h := by
    unfold NetworkClient.disconnect
    split
    · exact h
    · exact h.of_eq rfl rfl
  send {c} type payload h := by
    rcases NetworkClient.send_cases c type payload with ⟨-, hsend⟩ | ⟨-, diagnostics, hsend⟩
    · rw [hsend]
      exact h.push (Traffic.sent ⟨type, payload⟩) rfl rfl rfl rfl
    · rw [hsend]
      exact h.of_eq rfl rfl
  report _ h := h.of_eq rfl rfl
  readClock _ h := h.of_eq rfl rfl
  invocations _ h := h.of_eq rfl rfl

/-- **A message is received**, and goes into the log before it is looked at. -/
theorem Logged.dispatch {α : Type} (h : Logged c) (env : ClientEnvironment α) (message : Message)
    (a : α) : Logged (NetworkClient.dispatchOn env message (c, a)).2.1 := by
  obtain ⟨identity, rtt, posted, clockReads, diagnostics, hafter, -⟩ :=
    NetworkClient.dispatchOn_eq env message c a
  rw [hafter]
  exact h.push (Traffic.received message c.clockReads) rfl rfl rfl rfl

/-- **Every client logs its last connection.** -/
theorem clientInvariant_logged {α : Type} (env : ClientEnvironment α) :
    ClientInvariant env Logged where
  survives := logged_survives
  handled := {
    weaken := fun h => h
    calls := fun calls h => logged_survives.calls env.clock calls h
    reads := fun _ _ h => h.of_eq rfl rfl
    dispatch := fun message a _ h => h.dispatch env message a
    buffer := fun _ h => h.of_eq rfl rfl
    resolved := fun _ h => h.of_eq rfl rfl
    connected := fun _ h => h.of_eq rfl rfl
    failed := fun _ _ h => h.of_eq rfl rfl
    ended := fun _ _ h => h.of_eq rfl rfl }
  owed _ _ _ _ _ _ _ _ h := h.of_eq rfl rfl

end Logged

/-! ## What the window shows -/

/-- The row of a message in the window. -/
def messageRow (direction : String) (message : Message) : UiItem :=
  .tableRow direction (messageTypeText message.type) (toString message.payload.length ++ " Byte")

/-- The row of an item of the record. -/
def trafficRow : Traffic → Option UiItem
  | .started _ => none
  | .sent message => some (messageRow "SEND" message)
  | .received message _ => some (messageRow "RECV" message)

/-- The rows are those of the entries. -/
theorem filterMap_trafficRow (traffic : List Traffic) :
    traffic.filterMap trafficRow =
      (traffic.filterMap packetLogEntry).map fun packet => uiRow (uiPacket packet) := by
  rw [List.map_filterMap]
  apply List.filterMap_congr
  intro item _
  cases item <;> rfl

variable {K : Type} [Field K] [LinearOrder K] [IsStrictOrderedRing K] [FloorRing K] [HasSqrt K]

/-- **The monitor shows the latest messages.** In every run of fewer than 2^64 ticks with monotone
clocks, the packet table of every client shows the last eight of all messages that it has sent and
received since `Connect` last succeeded, as they came and the newest first, and is drawn without
leaving an array. These are the messages of the client's last connection: what was received are the
first messages that the server has sent on it, and the server has received the first ones of those
sent. The record is only ever added to. (`NetworkClient.Counts` says how often `Connect` and
`Disconnect` may succeed.) -/
theorem monitor_shows_latest (clock : ℕ → ℕ → UInt64) (toFloat : K → FloatBits)
    (hclock : ∀ n i j, i ≤ j → clock n i ≤ clock n j) (events : List (ArenaEvent K))
    (hticks : events.countP ArenaEvent.isTick < 2 ^ 64) (t : Arena K)
    (hrun : runFrom (Arena.step clock toFloat) Arena.initial events = some t) (n : ℕ) :
    (∀ historySize, ∃ data, networkUiData (some (t.channels n).client)
        (t.channels n).application.clientGameState historySize = .ok data ∧
      ∀ (rttText : UInt64 → String) (r : NetworkUiRenderer), r.frameActive = true →
        r.drawNetworkWindow rttText true data = .ok (summaryItems rttText data ++
          (((sinceStart (t.channels n).client.traffic).filterMap trafficRow).rtake
            maxNetworkUiPacketLogEntries).reverse)) ∧
    LastConnection (t.channels n) (lastStart (t.channels n).client.traffic) ∧
    ∀ earlier later t₀, events = earlier ++ later →
      runFrom (Arena.step clock toFloat) Arena.initial earlier = some t₀ →
        (t₀.channels n).client.traffic <+: (t.channels n).client.traffic := by
  obtain ⟨hreachable, hlogged, -⟩ := Arena.invariant_of_run hclock (A := Unit)
    (fun _ _ => []) (I := fun _ t => ∀ n, Logged (t.channels n).client)
    (fun _ => logged_initial)
    (fun before t event t' hreachable hlogged hnext hstep => hreachable.allClients hnext hstep
      (fun n => clientInvariant_logged (ClientApplication.environment (clock n))) hlogged)
    hticks hrun
  refine ⟨?_, (Arena.recorded_of_run hclock hticks hrun n).lastConnection hreachable, ?_⟩
  · intro historySize
    obtain ⟨data, hdata, hshown⟩ := networkWindow_shows (t.channels n).client
      (t.channels n).application.clientGameState historySize
    refine ⟨data, hdata, fun rttText r hactive => ?_⟩
    rw [hshown rttText r hactive, hlogged n, rtake_rtake (by decide), List.map_reverse,
      List.map_map, map_rtake, filterMap_trafficRow]
    rfl
  · intro earlier later t₀ hevents hearlier
    rw [hevents, List.countP_append] at hticks
    obtain ⟨hstart, hcounted⟩ := Arena.reachable_of_run hclock
      (Nat.lt_of_le_of_lt (Nat.le_add_right _ _) hticks) hearlier
    rw [hevents, runFrom_append, hearlier] at hrun
    exact hstart.record_grows hclock (by omega) hrun n

/-- The theorem on the run in which a client gets its first snapshot. -/
theorem monitor_shows_latest_firstSnapshot : ∃ t data,
    runFrom (Arena.step (fun _ _ => 0) nearestFloat) Arena.initial firstSnapshot = some t ∧
      networkUiData (some (t.channels 0).client) (t.channels 0).application.clientGameState 1 =
        .ok data ∧
      NetworkUiRenderer.drawNetworkWindow (fun _ => "") true data ⟨true, true⟩ =
        .ok (summaryItems (fun _ => "") data ++
          [.tableRow "RECV" "WorldStateSnapshot" "58 Byte",
            .tableRow "RECV" "PlayerIdentity" "8 Byte"]) := by
  have hentries : (runFrom (Arena.step (fun _ _ => 0) nearestFloat) Arena.initial
      firstSnapshot).map (fun t =>
        (sinceStart (t.channels 0).client.traffic).filterMap packetLogEntry) =
      some [⟨.receive, .playerIdentity, 8⟩, ⟨.receive, .worldStateSnapshot, 58⟩] := by
    decide +kernel
  obtain ⟨t, hrun, hlogged⟩ := Option.map_eq_some_iff.mp hentries
  obtain ⟨hwindow, -⟩ := monitor_shows_latest (fun _ _ => 0) nearestFloat
    (fun _ _ _ _ => UInt64.le_refl 0) firstSnapshot (by decide) t hrun 0
  obtain ⟨data, hdata, hdrawn⟩ := hwindow 1
  refine ⟨t, data, hrun, hdata, ?_⟩
  rw [hdrawn _ ⟨true, true⟩ rfl, filterMap_trafficRow, hlogged]
  rfl

end NetworkArena.System
