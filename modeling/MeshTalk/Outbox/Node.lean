import MeshTalk.Groups.Relay
import MeshTalk.Outbox.Tables

namespace MeshTalk.Outbox

open MeshTalk.Library MeshTalk.Protocol MeshTalk.Store MeshTalk.Groups

/-! # The node that sends

Its tables and the actions on them.  A statement and its commit are two awaits;
a `send_packet` lasts from the action before it to the one that reports its
outcome.
-/

/-- A group message on its way to a member: from the status `sent` to what
becomes of the packet.  `before` is the status that `sent` replaced. -/
structure Attempt where
  task : Nat
  messageId : String
  recipientId : PeerId
  before : Option GroupDeliveryStatus
deriving DecidableEq, Repr

def Attempt.isAt (attempt : Attempt) (task : Nat) (messageId : String) (recipientId : PeerId) : Bool :=
  attempt.task = task && attempt.messageId = messageId && attempt.recipientId = recipientId

structure OutboxNode where
  tables : OutboxTables
  /-- What a crash leaves of the tables. -/
  committed : OutboxTables
  /-- `settings.rooms`, each with its group name. -/
  rooms : Dict String (Option String)
  /-- The column `group_capable` of the roster, where it is set. -/
  groupCapable : Dict (String × PeerId) Bool
  /-- The column `capabilities` of the peers. -/
  peerCapabilities : Dict PeerId (List String)
  /-- The packets whose `send_packet` returned. -/
  sent : List (PeerId × Packet)
  /-- Auxiliary, read by no action: the group messages saved, the queue rows that
  a flush has fetched and not yet dealt with, and the attempts under way. -/
  stored : List GroupMessage
  holding : List (Nat × Nat)
  sending : List Attempt

/-- What the environment decides about a step. -/
structure OutboxFate where
  now : Time
  newId : String
  connected : Option GroupPeer
  sendFails : Bool
  raises : Bool
  withinRate : Bool
deriving DecidableEq, Repr

/-- `get_connected_peer`. -/
def OutboxFate.connectedTo (fate : OutboxFate) (peerId : PeerId) : Option GroupPeer :=
  fate.connected.filter fun peer => peer.peerId = peerId

/-- What other components change: rooms, roster, blocks. -/
structure Surroundings where
  rooms : Dict String (Option String)
  groupCapable : Dict (String × PeerId) Bool
  groupMembers : Table GroupMember fun row => (row.groupId, row.peerId)
  blockedPeers : List PeerId

inductive OutboxPoint where
  | query
  | saveMessage (message : SentMessage)
  | markSeen (messageId : String)
  | markDelivered (messageId : String) (senderId recipientId : PeerId)
  | markSent (messageId : String)
  | markQueued (messageId : String)
  | markFailed (messageId : String)
  | markBlocked (messageId : String) (senderId recipientId : PeerId)
  | setDelivery (messageId : String) (recipientId : PeerId) (status : GroupDeliveryStatus)
  | confirm (key : Bytes) (acknowledgement : GroupAckPayload)
  | beginAttempt (task : Nat) (messageId : String) (recipientId : PeerId)
  | endAttempt (task : Nat) (messageId : String) (recipientId : PeerId) (status : GroupDeliveryStatus)
  | saveGroupMessage (message : GroupMessage)
  | pruneSettled (groupId : String)
  | pruneBeyondHardLimit (groupId : String)
  | dropOrphanDeliveries
  | dropOrphanQueued (groupId : String)
  | enqueue (recipientId : PeerId) (packetType : Nat) (payload : Bytes) (messageId groupId : Option String)
  | readPending (task : Nat) (peerId : PeerId)
  | increment (queueId : Nat)
  | remove (task queueId : Nat)
  | removeFile (fileId : String) (recipientId : Option PeerId)
  | cleanup
  | dropQueued (messageId : String)
  | dropMessage (messageId : String)
  | dropGroupMessage (messageId groupId : String)
  | dropDeliveries (messageId : String)
  | removeGroup (groupId : String)
  | meet (peer : GroupPeer)
  | learnKey (peerId : PeerId) (key : Bytes)
  | configure (surroundings : Surroundings)
  | send (peerId : PeerId) (packet : Packet)
  | sendCopy (task : Nat) (messageId : String) (peerId : PeerId) (packet : Packet)
  | sendQueued (task : Nat) (row : OutgoingRow) (peerId : PeerId) (packet : Packet)
  | commit

inductive OutboxError where
  | refused (reason : String)
  | sendFailed
  | raised
deriving DecidableEq, Repr

abbrev OutboxProgram := Task OutboxNode OutboxFate OutboxPoint OutboxError

def refused (reason : String) : OutboxProgram α := .failed (.refused reason)

/-- A text that Python takes for true. -/
def given (text : Option String) : Bool := decide (text.getD "" ≠ "")

/-- The row of a member's copy of a group message. -/
def isGroupCopy (row : OutgoingRow) : Bool :=
  given row.messageId && given row.groupId && decide (row.packetType = PacketType.groupMessage.value)

/-- The packets of files, which the file manager flushes. -/
def filePacketTypes : List PacketType := [.fileOfferV2, .fileChunkV2, .fileAckV2]

def isFilePacket (packetType : Nat) : Bool := filePacketTypes.any fun type => type.value = packetType

namespace OutboxPoint

/-- The tables after the statement of a point. -/
def statement (point : OutboxPoint) (now : Time) (tables : OutboxTables) : OutboxTables :=
  match point with
  | .saveMessage message => tables.saveMessage message
  | .markSeen messageId => { tables with db := tables.db.markMessageSeen messageId now }
  | .markDelivered messageId senderId recipientId => tables.markMessageDelivered messageId senderId recipientId now
  | .markSent messageId => tables.markMessageSent messageId
  | .markQueued messageId => tables.markMessageQueued messageId
  | .markFailed messageId => tables.markMessageFailed messageId
  | .markBlocked messageId senderId recipientId => tables.markMessageBlocked messageId senderId recipientId
  | .setDelivery messageId recipientId status =>
      { tables with db := tables.db.setGroupDelivery messageId recipientId status now }
  | .confirm _ acknowledgement =>
      { tables with
        db := tables.db.setGroupDelivery acknowledgement.messageId acknowledgement.recipientId .delivered now }
  | .beginAttempt _ messageId recipientId =>
      { tables with db := tables.db.setGroupDelivery messageId recipientId .sent now }
  | .endAttempt _ messageId recipientId status =>
      { tables with db := tables.db.setGroupDelivery messageId recipientId status now }
  | .saveGroupMessage message => { tables with db := tables.db.insertGroupMessage message }
  | .pruneSettled groupId => { tables with db := tables.db.pruneSettled groupId }
  | .pruneBeyondHardLimit groupId => { tables with db := tables.db.pruneBeyondHardLimit groupId }
  | .dropOrphanDeliveries => { tables with db := tables.db.dropOrphanDeliveries }
  | .dropOrphanQueued groupId => { tables with db := tables.db.dropOrphanQueued groupId }
  | .enqueue recipientId packetType payload messageId groupId =>
      { tables with db := tables.db.addToOutqueue recipientId packetType payload messageId groupId now }
  | .increment queueId => { tables with db := tables.db.incrementOutqueueAttempts queueId now }
  | .remove _ queueId => { tables with db := tables.db.removeFromOutqueue queueId }
  | .removeFile fileId recipientId => { tables with db := tables.db.removeFileFromOutqueue fileId recipientId }
  | .cleanup => { tables with db := tables.db.cleanupExpired now }
  | .dropQueued messageId => { tables with db := tables.db.dropQueued messageId }
  | .dropMessage messageId => tables.deleteMessage messageId
  | .dropGroupMessage messageId groupId => { tables with db := tables.db.dropGroupMessage messageId groupId }
  | .dropDeliveries messageId => { tables with db := tables.db.dropDeliveries messageId }
  | .removeGroup groupId => { tables with db := tables.db.removeGroup groupId }
  | .meet peer =>
      { tables with
        db := { tables.db with
          peers := tables.db.peers.insertOrReplace ⟨peer.peerId, peer.encryptionPublicKey, peer.signingPublicKey⟩ } }
  | .learnKey peerId key => { tables with db := tables.db.insertSigningKey peerId key }
  | .configure surroundings =>
      { tables with
        db := { tables.db with
          groupMembers := surroundings.groupMembers
          blockedPeers := surroundings.blockedPeers } }
  | .query | .readPending _ _ | .send _ _ | .sendCopy _ _ _ _ | .sendQueued _ _ _ _ | .commit => tables

end OutboxPoint

namespace OutboxNode

variable (node : OutboxNode)

def namesRoom (groupId : String) : Bool := (node.rooms.get? groupId).any Option.isSome

def peerSupports (peerId : PeerId) (capability : String) : Bool :=
  (node.peerCapabilities.get? peerId).any fun capabilities => decide (capability ∈ capabilities)

def publicKeyOf (peerId : PeerId) : Option Bytes := (node.tables.db.peers.find? peerId).bind PeerRecord.publicKey

def signingKeyOf (peerId : PeerId) : Option Bytes :=
  (node.tables.db.peers.find? peerId).bind PeerRecord.signingPublicKey

/-- `get_group_members` of the active ones, each with whether its `group_capable` is 0. -/
def activeMembers (groupId : String) : List (PeerId × Bool) :=
  (node.tables.db.groupMembers.rows.filter fun row => row.groupId = groupId && row.active).map fun row =>
    (row.peerId, decide (node.groupCapable.get? (groupId, row.peerId) = some false))

/-- The active members besides one, each with whether its `group_capable` is 1. -/
def otherMembers (groupId : String) (ownId : PeerId) : List (PeerId × Bool) :=
  (node.tables.db.groupMembers.rows.filter fun row =>
    row.groupId = groupId && row.active && decide (row.peerId ≠ ownId)).map fun row =>
      (row.peerId, decide (node.groupCapable.get? (groupId, row.peerId) = some true))

/-- The attempts of other tasks and at other deliveries. -/
def otherAttempts (task : Nat) (messageId : String) (recipientId : PeerId) : List Attempt :=
  node.sending.filter fun attempt => !attempt.isAt task messageId recipientId

end OutboxNode

namespace OutboxPoint

/-- What resuming a task at a point does to the node. -/
def effect (point : OutboxPoint) (fate : OutboxFate) (node : OutboxNode) : OutboxNode :=
  match point with
  | .commit => { node with committed := node.tables }
  | .send peerId packet => if fate.sendFails then node else { node with sent := node.sent ++ [(peerId, packet)] }
  | .sendCopy task messageId peerId packet =>
      if fate.sendFails then node
      else
        { node with
          sent := node.sent ++ [(peerId, packet)]
          sending := node.otherAttempts task messageId peerId }
  | .sendQueued task row peerId packet =>
      let node := { node with
        sending := if isGroupCopy row then node.otherAttempts task (row.messageId.getD "") peerId else node.sending }
      if fate.sendFails then
        { node with holding := node.holding.filter fun held => held ≠ (task, row.id) }
      else { node with sent := node.sent ++ [(peerId, packet)] }
  | .beginAttempt task messageId recipientId =>
      { node with
        tables := point.statement fate.now node.tables
        sending := node.sending ++
          [⟨task, messageId, recipientId, node.tables.db.groupDeliveryStatus messageId recipientId⟩] }
  | .endAttempt task messageId recipientId _ =>
      { node with
        tables := point.statement fate.now node.tables
        sending := node.otherAttempts task messageId recipientId }
  | .saveGroupMessage message =>
      { node with
        tables := point.statement fate.now node.tables
        stored := if node.tables.db.groupMessages.holds message.messageId then node.stored else node.stored ++ [message] }
  | .readPending task peerId =>
      { node with
        holding := node.holding ++ ((node.tables.db.getPendingOutgoing peerId).filter fun row =>
          !isFilePacket row.packetType).map fun row => (task, row.id) }
  | .remove task queueId =>
      { node with
        tables := point.statement fate.now node.tables
        holding := node.holding.filter fun held => held ≠ (task, queueId) }
  | .removeGroup groupId =>
      { node with
        tables := point.statement fate.now node.tables
        rooms := node.rooms.erase groupId }
  | .meet peer =>
      { node with
        tables := point.statement fate.now node.tables
        peerCapabilities := node.peerCapabilities.set peer.peerId peer.capabilities }
  | .configure surroundings =>
      { node with
        tables := point.statement fate.now node.tables
        rooms := surroundings.rooms
        groupCapable := surroundings.groupCapable }
  | point => { node with tables := point.statement fate.now node.tables }

end OutboxPoint

/-! ## Actions -/

/-- A read, with what else the environment answers then. -/
def ask (answer : OutboxFate → OutboxNode → α) : OutboxProgram α :=
  Task.perform .query fun fate => do
    let node ← Handler.read
    pure (answer fate node)

def query (read : OutboxNode → α) : OutboxProgram α := ask fun _ node => read node

/-- One statement, or another action that does not raise. -/
def act (point : OutboxPoint) : OutboxProgram Unit := Task.perform point fun fate => Handler.change (point.effect fate)

/-- A statement and its commit. -/
def execute (point : OutboxPoint) : OutboxProgram Unit := do
  act point
  act .commit

/-- What the environment lets a statement raise. -/
def mayRaise : OutboxProgram Unit := Task.perform .query fun fate => Handler.refuse (fate.raises = true) .raised

/-- `send_packet`; whether it returned. -/
def transmit (point : OutboxPoint) : OutboxProgram Bool :=
  Task.perform point fun fate => do
    Handler.change (point.effect fate)
    pure !fate.sendFails

def onlyIf (condition : Bool) (body : OutboxProgram Unit) : OutboxProgram Unit := if condition then body else pure ()

def liveMessage (encoded : Bytes) : Packet := ⟨.live .message, encoded⟩

def liveGroupMessage (encoded : Bytes) : Packet := ⟨.live .groupMessage, encoded⟩

end MeshTalk.Outbox
