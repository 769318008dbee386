import MeshTalk.Library.Table
import MeshTalk.Protocol.Packet

namespace MeshTalk.Store

open MeshTalk.Library MeshTalk.Protocol

/-! # The tables the modelled components read and write

Rows carry the columns that some modelled function uses.  Message bodies are
stored encrypted with a local key; the model keeps the plaintext, since every
reader decrypts with the same key.
-/

structure DirectMessage where
  messageId : String
  senderId : PeerId
  recipientId : PeerId
  content : Option String
  createdAt : Time
deriving DecidableEq, Repr

structure OutgoingRow where
  id : Nat
  messageId : Option String
  recipientId : PeerId
  packetType : Nat
  encryptedPayload : Bytes
  createdAt : Time
  attempts : Nat
  lastAttempt : Option Time
  groupId : Option String
deriving DecidableEq, Repr

/-- The same queued packet, whatever its retry counters say. -/
def OutgoingRow.SameEntry (row other : OutgoingRow) : Prop :=
  { row with attempts := other.attempts, lastAttempt := other.lastAttempt } = other

inductive GroupMessageKind where
  | message | join | leave
deriving DecidableEq, Repr

/-- `rowid` is the position by insertion; pruning and relaying order by it. -/
structure GroupMessage where
  messageId : String
  groupId : String
  senderId : PeerId
  content : Option String
  createdAt : Time
  receivedAt : Option Time
  kind : GroupMessageKind
  replyToMessageId : Option String
  originSignature : Option Bytes
  rowid : Nat
deriving DecidableEq, Repr

inductive GroupDeliveryStatus where
  | pending | queued | sent | delivered | unavailable | failed
deriving DecidableEq, Repr

structure GroupDelivery where
  messageId : String
  recipientId : PeerId
  status : GroupDeliveryStatus
  updatedAt : Time
deriving DecidableEq, Repr

structure GroupMember where
  groupId : String
  peerId : PeerId
  active : Bool
  joinedAt : Time
  lastSeen : Time
  leftAt : Option Time
deriving DecidableEq, Repr

/-- How far the history of a group has been relayed to a peer. -/
structure RelayCursor where
  peerId : PeerId
  groupId : String
  lastRowid : Nat
  updatedAt : Time
deriving DecidableEq, Repr

/-- The keys remembered of a peer. -/
structure PeerRecord where
  peerId : PeerId
  publicKey : Option Bytes
  signingPublicKey : Option Bytes
deriving DecidableEq, Repr

inductive FileDirection where
  | inbound | outbound
deriving DecidableEq, Repr

inductive FileStatus where
  | pending | transferring | queued | sent | completed | failed | blocked | unavailable
deriving DecidableEq, Repr

/-- A path as its components; the root directory is the empty path. -/
abbrev Path := List String

structure FileTransfer where
  fileId : String
  filename : String
  fileSize : Nat
  chunkSize : Nat
  totalChunks : Nat
  senderId : PeerId
  recipientId : PeerId
  groupId : Option String
  direction : FileDirection
  status : FileStatus
  filePath : Option Path
  createdAt : Time
  completedAt : Option Time
  receivedChunks : Nat
  fileSha256 : String
  caption : String
  batchId : Option String
  batchIndex : Option Nat
  batchCount : Option Nat
  awaitingAckAt : Option Time
deriving DecidableEq, Repr

structure FileDelivery where
  fileId : String
  recipientId : PeerId
  status : FileStatus
  updatedAt : Time
  awaitingAckAt : Option Time
deriving DecidableEq, Repr

structure SeenMessage where
  messageId : String
  seenAt : Time
deriving DecidableEq, Repr

structure FileReceivedChunk where
  fileId : String
  chunkIndex : Nat
deriving DecidableEq, Repr

/-- `queueSequence` is SQLite's record of the last id issued to the queue. -/
structure Database where
  messages : Table DirectMessage DirectMessage.messageId := ∅
  outgoingQueue : Table OutgoingRow OutgoingRow.id := ∅
  queueSequence : Nat := 0
  seenMessages : Table SeenMessage SeenMessage.messageId := ∅
  friends : List PeerId := []
  blockedPeers : List PeerId := []
  groups : List String := []
  peers : Table PeerRecord PeerRecord.peerId := ∅
  groupMembers : Table GroupMember (fun row => (row.groupId, row.peerId)) := ∅
  groupRelayCursors : Table RelayCursor (fun row => (row.peerId, row.groupId)) := ∅
  groupMessages : Table GroupMessage GroupMessage.messageId := ∅
  groupDeliveries : Table GroupDelivery (fun row => (row.messageId, row.recipientId)) := ∅
  fileTransfers : Table FileTransfer FileTransfer.fileId := ∅
  fileDeliveries : Table FileDelivery (fun row => (row.fileId, row.recipientId)) := ∅
  fileReceivedChunks : Table FileReceivedChunk (fun row => (row.fileId, row.chunkIndex)) := ∅

namespace Database

def isPeerBlocked (db : Database) (peerId : PeerId) : Bool := decide (peerId ∈ db.blockedPeers)

def isFriend (db : Database) (peerId : PeerId) : Bool :=
  decide (peerId ∈ db.friends) && !db.isPeerBlocked peerId

def isMessageSeen (db : Database) (messageId : String) : Bool := db.seenMessages.holds messageId

def markMessageSeen (db : Database) (messageId : String) (now : Time) : Database :=
  { db with seenMessages := db.seenMessages.insertOrIgnore { messageId, seenAt := now } }

def getGroupMember (db : Database) (groupId : String) (peerId : PeerId) : Option GroupMember :=
  db.groupMembers.find? (groupId, peerId)

end Database

end MeshTalk.Store
