import MeshTalk.Library.Machine
import MeshTalk.Library.Dict
import MeshTalk.Library.Table
import MeshTalk.Library.Task
import MeshTalk.Library.Handler
import MeshTalk.Library.BigEndian
import MeshTalk.Library.Hex
import MeshTalk.Protocol.Packet
import MeshTalk.Protocol.Handshake
import MeshTalk.Udp.Transport
import MeshTalk.Udp.Handshake
import MeshTalk.Udp.Data
import MeshTalk.Udp.Maintenance
import MeshTalk.Udp.SessionTables
import MeshTalk.Udp.Frames
import MeshTalk.Udp.SessionRuns
import MeshTalk.Udp.Announced
import MeshTalk.Udp.Attempts
import MeshTalk.Udp.Completed
import MeshTalk.Peers.Tables
import MeshTalk.Peers.Manager
import MeshTalk.Peers.Routes
import MeshTalk.Peers.Agreement
import MeshTalk.Peers.Delivery
import MeshTalk.Store.Tables
import MeshTalk.Store.Queue
import MeshTalk.Store.GroupHistory
import MeshTalk.Store.QueueFrame
import MeshTalk.Protocol.FilePayloads
import MeshTalk.Store.FileTables
import MeshTalk.Files.Paths
import MeshTalk.Files.Receiver
import MeshTalk.Files.Acknowledgements
import MeshTalk.Files.Actions
import MeshTalk.Files.Reservations
import MeshTalk.Store.Roster
import MeshTalk.Protocol.GroupPayloads
import MeshTalk.Groups.Relay
import MeshTalk.Groups.Sweeps
import MeshTalk.Groups.Memberships
import MeshTalk.Groups.Cursors
import MeshTalk.Protocol.EndpointCards
import MeshTalk.Groups.Intake
import MeshTalk.Groups.Presence
import MeshTalk.Groups.Copies
import MeshTalk.Store.FileDeliveries
import MeshTalk.Deliveries.Sender
import MeshTalk.Deliveries.Operations
import MeshTalk.Deliveries.Rules
import MeshTalk.Deliveries.Statuses
import MeshTalk.Deliveries.Completion
import MeshTalk.Deliveries.Stranded
import MeshTalk.Deliveries.Aggregates
import MeshTalk.Udp.Fragments
import MeshTalk.Udp.Duplicates
import MeshTalk.Udp.Packets
import MeshTalk.Udp.Steps
import MeshTalk.Udp.Origins
import MeshTalk.Udp.Calls
import MeshTalk.Udp.Displacement
import MeshTalk.Tcp.Session
import MeshTalk.Tcp.Records
import MeshTalk.Protocol.HandshakePayload
import MeshTalk.Tcp.Derivation
import MeshTalk.Udp.Exchange
import MeshTalk.Peers.Handshakes
import MeshTalk.Rendezvous.Cards
import MeshTalk.Rendezvous.Replays
import MeshTalk.Protocol.FriendPayloads
import MeshTalk.Library.Alone
import MeshTalk.Friends.Tables
import MeshTalk.Friends.Manager
import MeshTalk.Friends.Permissions
import MeshTalk.Friends.Grants
import MeshTalk.Friends.Announcements
import MeshTalk.Store.GroupDeliveries
import MeshTalk.Store.HistoryBounds
import MeshTalk.Store.LocalHistory
import MeshTalk.Store.LocalSearch
import MeshTalk.Outbox.Tables
import MeshTalk.Outbox.Node
import MeshTalk.Outbox.Router
import MeshTalk.Outbox.Steps
import MeshTalk.Outbox.Contracts
import MeshTalk.Outbox.Receipts
import MeshTalk.Outbox.Attempts
import MeshTalk.Outbox.Confirmed
import MeshTalk.Library.Base64
import MeshTalk.Control.Wire
import MeshTalk.Control.State
import MeshTalk.Control.Handlers
import MeshTalk.Control.Bun
import MeshTalk.Control.Worker
import MeshTalk.Control.Effects
import MeshTalk.Control.Rooms
import MeshTalk.Control.Consistency
import MeshTalk.Control.Reactions
import MeshTalk.Control.BunSteps
import MeshTalk.Control.Failures
import MeshTalk.Control.Pending
import MeshTalk.Control.WorkerSteps
import MeshTalk.Control.Consistent
import MeshTalk.Control.RateLimits
import MeshTalk.Control.RateWindows
import MeshTalk.Library.UrlBase64
import MeshTalk.Library.Distinct
import MeshTalk.Settings.Rooms
import MeshTalk.Settings.State
import MeshTalk.Settings.Mutators
import MeshTalk.Settings.Atomicity
import MeshTalk.Updates.Versions
import MeshTalk.Updates.Check
import MeshTalk.Control.Messages
import MeshTalk.Library.Trim
import MeshTalk.Deliveries.Filenames
import MeshTalk.Deliveries.NameBytes
import MeshTalk.Deliveries.IncomingNames
import MeshTalk.Deliveries.ResendLimits
import MeshTalk.Udp.Rejections
import MeshTalk.Udp.Stun
import MeshTalk.Library.TextUnits
import MeshTalk.Mentions.Tokens
import MeshTalk.Mentions.Segments
import MeshTalk.Mentions.Drafts
import MeshTalk.Protocol.JsonText
import MeshTalk.Files.MissingRanges
import MeshTalk.Outbox.PacketSizes
import MeshTalk.Protocol.Canonical
import MeshTalk.Udp.Signatures
import MeshTalk.Library.Windows
import MeshTalk.Library.RowTables
import MeshTalk.Library.Phases
import MeshTalk.Groups.RateLimits
import MeshTalk.Groups.RelayBudgets
import MeshTalk.Store.MemberRows
import MeshTalk.Groups.RosterCalls
import MeshTalk.Library.Moves
import MeshTalk.Library.Budgets
import MeshTalk.Control.Acts
import MeshTalk.Control.Walks
import MeshTalk.Control.Forwarding
import MeshTalk.Control.Bandwidth
import MeshTalk.Control.Bystanders
import MeshTalk.Control.Refinement
import MeshTalk.Ipc.Promises
import MeshTalk.Ipc.Chunks
import MeshTalk.Ipc.Connects
import MeshTalk.Ipc.Broadcasts
