import NetworkArena.Shared.WorldStateFormat
import NetworkArena.Shared.FixedFormats
import NetworkArena.Client.Lifecycle
import NetworkArena.Client.SendQueue
import NetworkArena.Client.SnapshotHistory
import NetworkArena.Client.Interpolation
import NetworkArena.Client.ResourceRepositories
import NetworkArena.Server.BackPressure
import NetworkArena.Server.Listening
import NetworkArena.Server.WritePath
import NetworkArena.Server.Overlap
import NetworkArena.Server.ScoreRate
import NetworkArena.Server.Independence
import NetworkArena.Server.SnapshotEncoding
import NetworkArena.Server.Registry
import NetworkArena.Server.RoomManager
import NetworkArena.Server.PlayerIds
import NetworkArena.Server.ContinuousCollision
import NetworkArena.Server.IterationOrder
import NetworkArena.Server.Mirror
import NetworkArena.System.Framing
import NetworkArena.System.Published
import NetworkArena.System.RoundTrips
import NetworkArena.System.Channel
import NetworkArena.System.Protocol
import NetworkArena.System.HeldInput
import NetworkArena.Client.Display
import NetworkArena.Client.RenderResources
import NetworkArena.System.Players
import NetworkArena.System.Screens
import NetworkArena.System.Monitor
import NetworkArena.System.Process
