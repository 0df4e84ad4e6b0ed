/-
# NetworkArena.Client.NetworkWindow -- the network monitor

What `Render` puts into `NetworkUiData` and what `network_ui_renderer.cpp` makes of it. The data has
an array for the latest messages, which a loop fills from the packet log and another loop reads from
behind. All accesses are checked; the table shows the end of the packet log, the newest message
first (`networkWindow_shows`). Dear ImGui lays the items out and may skip the table; the text of a
round trip time is whatever `%.2f` makes of it.
-/
import NetworkArena.Client.Display
import NetworkArena.Client.SnapshotHistory
import NetworkArena.Foundation.Latest

namespace NetworkArena.Client

open NetworkArena.Foundation
open NetworkArena.Shared

/-! ## The data -/

inductive NetworkUiPacketDirection where
  | unknown
  | send
  | receive
  deriving DecidableEq, Repr

structure NetworkUiPacketLogEntry where
  direction : NetworkUiPacketDirection := .send
  messageType : MessageType := .unknown
  payloadSize : ℕ := 0
  deriving DecidableEq, Repr

def maxNetworkUiPacketLogEntries : ℕ := 8

structure NetworkUiData where
  connectionState : String := "Disconnected"
  rttNanoseconds : Option UInt64 := none
  roomId : Option RoomId := none
  playerId : Option PlayerId := none
  latestServerTick : Option ServerTick := none
  snapshotHistorySize : ℕ := 0
  snapshotHistoryCapacity : ℕ := 0
  gamePlayState : Option GamePlayState := none
  attackingSide : Option PlayerSide := none
  flameScore : UInt32 := 0
  frostScore : UInt32 := 0
  /-- A `std::array`. -/
  packetLog : List NetworkUiPacketLogEntry := List.replicate maxNetworkUiPacketLogEntries {}
  packetLogSize : ℕ := 0
  deriving DecidableEq, Repr

def connectionStateText : ConnectionState → String
  | .disconnected => "Disconnected"
  | .resolving => "Resolving"
  | .connecting => "Connecting"
  | .connected => "Connected"

/-- An entry of the packet log as the window shows it. -/
def uiPacket (packet : PacketLogEntry) : NetworkUiPacketLogEntry where
  direction := if packet.direction = .send then .send else .receive
  messageType := packet.messageType
  payloadSize := packet.payloadSize

/-- The body of the loop over the packet log. -/
def recordUiPacket (packetLog : List PacketLogEntry) (data : NetworkUiData) (index : ℕ) :
    Checked NetworkUiData := do
  let packet ← Span.readAt packetLog index
  let uiPacketLog ← Span.writeAt data.packetLog data.packetLogSize (uiPacket packet)
  return { data with packetLog := uiPacketLog, packetLogSize := data.packetLogSize + 1 }

/-- What `Render` collects. -/
def networkUiData (networkClient : Option NetworkClient) (clientGameState : ClientGameState)
    (historySize : ℕ) : Checked NetworkUiData := do
  let data : NetworkUiData ←
    match networkClient with
    | none => pure {}
    | some networkClient =>
      let data : NetworkUiData := {
        connectionState := connectionStateText networkClient.connectionState
        rttNanoseconds := networkClient.latestRttNanoseconds }
      let packetLog := networkClient.packetLog
      let packetLogStartIndex :=
        if packetLog.length > data.packetLog.length then packetLog.length - data.packetLog.length
        else 0
      (List.range' packetLogStartIndex (packetLog.length - packetLogStartIndex)).foldlM
        (recordUiPacket packetLog) data
  let data := { data with
    roomId := clientGameState.playerIdentity.map PlayerIdentityPayload.roomId
    playerId := clientGameState.playerIdentity.map PlayerIdentityPayload.playerId
    latestServerTick := clientGameState.worldState.map WorldStateSnapshot.serverTick
    snapshotHistorySize := historySize
    snapshotHistoryCapacity := maxWorldStateSnapshotHistorySize }
  match clientGameState.worldState with
  | none => return data
  | some worldState =>
    return { data with
      gamePlayState := some worldState.gamePlayState
      attackingSide := some worldState.attackingSide
      flameScore := worldState.flameScore
      frostScore := worldState.frostScore }

/-! ## The window -/

def gamePlayStateText (gamePlayState : GamePlayState) : String :=
  if gamePlayState = .waiting then "Waiting"
  else if gamePlayState = .playing then "Playing"
  else if gamePlayState = .finished then "Finished"
  else "Unknown"

def playerSideText (playerSide : PlayerSide) : String :=
  if playerSide = .none then "None"
  else if playerSide = .flame then "Flame"
  else if playerSide = .frost then "Frost"
  else "Unknown"

def packetDirectionText : NetworkUiPacketDirection → String
  | .send => "SEND"
  | .receive => "RECV"
  | .unknown => "UNKNOWN"

def messageTypeText (messageType : MessageType) : String :=
  if messageType = .ping then "Ping"
  else if messageType = .pong then "Pong"
  else if messageType = .playerInput then "PlayerInput"
  else if messageType = .worldStateSnapshot then "WorldStateSnapshot"
  else if messageType = .playerIdentity then "PlayerIdentity"
  else "Unknown"

/-- What a window is made of. -/
inductive UiItem where
  | text (line : String)
  | separator
  | tableRow (direction messageType payload : String)
  deriving DecidableEq, Repr

/-- The row of a message in the table. -/
def uiRow (packet : NetworkUiPacketLogEntry) : UiItem :=
  .tableRow (packetDirectionText packet.direction) (messageTypeText packet.messageType)
    (toString packet.payloadSize ++ " Byte")

/-- The loop over the rows, which counts down to zero. -/
def packetLogRows (data : NetworkUiData) : ℕ → Checked (List UiItem)
  | 0 => return []
  | index + 1 => do
    let packet ← Span.readAt data.packetLog index
    let rows ← packetLogRows data index
    return uiRow packet :: rows

/-- The items above the table. -/
def summaryItems (rttText : UInt64 → String) (data : NetworkUiData) : List UiItem :=
  [.text ("Connection: " ++ data.connectionState),
    .text ("RTT: " ++ match data.rttNanoseconds with
      | some rtt => rttText rtt ++ " ms"
      | none => "-"),
    .text ("Room ID: " ++ match data.roomId with
      | some roomId => toString roomId.toNat
      | none => "-"),
    .text ("Player ID: " ++ match data.playerId with
      | some playerId => toString playerId.toNat
      | none => "-"),
    .separator,
    .text ("Latest Server Tick: " ++ match data.latestServerTick with
      | some serverTick => toString serverTick.toNat
      | none => "-"),
    .text ("Snapshot History: " ++ toString data.snapshotHistorySize ++ " / " ++
      toString data.snapshotHistoryCapacity),
    .separator] ++
  (match data.gamePlayState with
    | some gamePlayState =>
      [.text ("Game State: " ++ gamePlayStateText gamePlayState),
        .text ("Attacking Side: " ++ match data.attackingSide with
          | some attackingSide => playerSideText attackingSide
          | none => "-"),
        .text ("Score: FLAME " ++ toString data.flameScore.toNat ++ " : " ++
          toString data.frostScore.toNat ++ " FROST")]
    | none => [.text "Game State: -", .text "Attacking Side: -", .text "Score: -"]) ++
  [.separator, .text "[Packet Log]"]

/-- `DrawNetworkWindow`; `tableBegun` is what `BeginTable` returns. -/
def NetworkUiRenderer.drawNetworkWindow (rttText : UInt64 → String) (tableBegun : Bool)
    (data : NetworkUiData) (r : NetworkUiRenderer) : Checked (List UiItem) := do
  if !r.frameActive then return []
  else
    let rows ← if tableBegun then packetLogRows data data.packetLogSize else pure []
    return summaryItems rttText data ++ rows

/-! ## What the window shows -/

section Showing

variable {packetLog : List PacketLogEntry}

/-- The loop has put the entries before an index into the array, and goes on with the rest. -/
theorem foldlM_recordUiPacket (rest before : List PacketLogEntry) (shown free :
    List NetworkUiPacketLogEntry) (hlog : before ++ rest = packetLog)
    (hfree : rest.length ≤ free.length) (data : NetworkUiData)
    (harray : data.packetLog = shown ++ free) (hsize : data.packetLogSize = shown.length) :
    (List.range' before.length rest.length).foldlM (recordUiPacket packetLog) data = .ok { data with
      packetLog := shown ++ rest.map uiPacket ++ free.drop rest.length
      packetLogSize := (shown ++ rest.map uiPacket).length } := by
  induction rest generalizing before shown free data with
  | nil =>
      simp only [List.length_nil, List.range'_zero, List.foldlM_nil, List.map_nil, List.append_nil,
        List.drop_zero, ← harray, ← hsize]
      rfl
  | cons packet rest ih =>
      cases free with
      | nil => simp at hfree
      | cons old free =>
          have hone : recordUiPacket packetLog data before.length = .ok { data with
              packetLog := shown ++ [uiPacket packet] ++ free
              packetLogSize := (shown ++ [uiPacket packet]).length } := by
            unfold recordUiPacket
            rw [← hlog, Span.readAt_append _ _ _ rfl, Checked.ok_bind, harray,
              Span.writeAt_append _ _ _ _ hsize, Checked.ok_bind, hsize]
            simp
          rw [List.length_cons, List.range'_succ, List.foldlM_cons, hone, Checked.ok_bind,
            show before.length + 1 = (before ++ [packet]).length by simp,
            ih (before ++ [packet]) (shown ++ [uiPacket packet]) free (by simpa using hlog)
              (by simpa using hfree) _ rfl rfl]
          simp

/-- The rows of an array that starts with some entries, from behind. -/
theorem packetLogRows_eq {data : NetworkUiData} (shown : List NetworkUiPacketLogEntry)
    {free : List NetworkUiPacketLogEntry} (harray : data.packetLog = shown ++ free) :
    packetLogRows data shown.length = .ok (shown.reverse.map uiRow) := by
  induction shown using List.reverseRecOn generalizing free with
  | nil => rfl
  | append_singleton shown packet ih =>
      rw [List.append_assoc] at harray
      rw [List.length_append, List.length_singleton, packetLogRows, harray, List.singleton_append,
        Span.readAt_append _ _ _ rfl, Checked.ok_bind, ih harray, Checked.ok_bind,
        List.reverse_append]
      rfl

/-- The rows of the data that `Render` collects. -/
theorem networkUiData_rows (c : NetworkClient) (clientGameState : ClientGameState)
    (historySize : ℕ) :
    ∃ data, networkUiData (some c) clientGameState historySize = .ok data ∧
      packetLogRows data data.packetLogSize =
        .ok (((c.packetLog.rtake maxNetworkUiPacketLogEntries).map uiPacket).reverse.map
          uiRow) := by
  have hstart : (if c.packetLog.length > maxNetworkUiPacketLogEntries then
      c.packetLog.length - maxNetworkUiPacketLogEntries else 0) =
        (c.packetLog.take (c.packetLog.length - maxNetworkUiPacketLogEntries)).length := by
    rw [List.length_take]
    split <;> omega
  have hcount : c.packetLog.length -
      (c.packetLog.take (c.packetLog.length - maxNetworkUiPacketLogEntries)).length =
        (c.packetLog.rtake maxNetworkUiPacketLogEntries).length := by
    rw [List.rtake, List.length_take, List.length_drop]
    omega
  have hfill := foldlM_recordUiPacket
    (c.packetLog.rtake maxNetworkUiPacketLogEntries)
    (c.packetLog.take (c.packetLog.length - maxNetworkUiPacketLogEntries)) []
    (List.replicate maxNetworkUiPacketLogEntries {}) (List.take_append_drop _ _)
    (by rw [List.rtake, List.length_drop, List.length_replicate]; omega)
    { connectionState := connectionStateText c.connectionState
      rttNanoseconds := c.latestRttNanoseconds } rfl rfl
  unfold networkUiData
  dsimp only
  rw [List.length_replicate, hstart, hcount, hfill, Checked.ok_bind]
  rcases clientGameState.worldState with _ | worldState
  · exact ⟨_, rfl, packetLogRows_eq _ rfl⟩
  · exact ⟨_, rfl, packetLogRows_eq _ rfl⟩

/-- **The window shows the end of the packet log**, the newest message first, below its summary. -/
theorem networkWindow_shows (c : NetworkClient) (clientGameState : ClientGameState)
    (historySize : ℕ) :
    ∃ data, networkUiData (some c) clientGameState historySize = .ok data ∧
      ∀ (rttText : UInt64 → String) (r : NetworkUiRenderer), r.frameActive = true →
        r.drawNetworkWindow rttText true data = .ok (summaryItems rttText data ++
          ((c.packetLog.rtake maxNetworkUiPacketLogEntries).map uiPacket).reverse.map uiRow) := by
  obtain ⟨data, hdata, hrows⟩ := networkUiData_rows c clientGameState historySize
  refine ⟨data, hdata, fun rttText r hactive => ?_⟩
  rw [NetworkUiRenderer.drawNetworkWindow, hactive, if_neg (by decide), if_pos rfl, hrows]
  rfl

end Showing

end NetworkArena.Client
