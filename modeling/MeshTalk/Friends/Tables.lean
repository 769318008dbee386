import MeshTalk.Protocol.FriendPayloads
import MeshTalk.Store.Tables

namespace MeshTalk.Friends

open MeshTalk.Library MeshTalk.Protocol MeshTalk.Store

/-! # Friends, requests and blocks

Each operation is one SQL statement with the triggers it fires.
-/

def maxIncomingRequests : Nat := 1024
def maxIncomingRequestsPerPeer : Nat := 32
def maxPendingIncomingRequests : Nat := 256
def friendRequestWindow : Time := 3600
def maxRequestsPerWindow : Nat := 3
def answeredRequestAge : Time := 30 * 86400

structure Friend where
  peerId : PeerId
  displayName : String
  createdAt : Time
deriving DecidableEq, Repr

structure BlockedPeer where
  peerId : PeerId
  displayName : String
  createdAt : Time
deriving DecidableEq, Repr

inductive RequestDirection where
  | incoming | outgoing
deriving DecidableEq, Repr

inductive RequestStatus where
  | pending | accepted | declined | cancelled
deriving DecidableEq, Repr

structure FriendRequest where
  requestId : String
  senderId : PeerId
  senderName : String
  recipientId : PeerId
  recipientName : String
  note : Option String
  createdAt : Time
  direction : RequestDirection
  status : RequestStatus
  respondedAt : Option Time
  admittedAt : Time
deriving DecidableEq, Repr

namespace FriendRequest

variable (request : FriendRequest)

/-- The peer the request is with, as the trigger on acceptance finds it. -/
def otherParty : PeerId :=
  match request.direction with
  | .incoming => request.senderId
  | .outgoing => request.recipientId

def otherName : String :=
  match request.direction with
  | .incoming => request.senderName
  | .outgoing => request.recipientName

def pending : Bool := request.status = .pending

def involves (peerId : PeerId) : Bool := request.senderId = peerId || request.recipientId = peerId

end FriendRequest

/-- A row of `outgoing_queue` written by the friend manager. -/
structure QueuedFriendPacket where
  messageId : String
  recipientId : PeerId
  packet : FriendPacket
  createdAt : Time
deriving DecidableEq, Repr

/-- A direct message; `blocked` is set by the notice of its recipient. -/
structure MessageRow where
  messageId : String
  senderId : PeerId
  recipientId : PeerId
  content : Option String
  encryptedContent : Bytes
  createdAt : Time
  readAt : Option Time
  receivedAt : Option Time
  replyToMessageId : Option String
  blocked : Bool
deriving DecidableEq, Repr

structure FriendTables where
  friends : Table Friend Friend.peerId := ∅
  blockedPeers : Table BlockedPeer BlockedPeer.peerId := ∅
  friendRequests : Table FriendRequest FriendRequest.requestId := ∅
  messages : Table MessageRow MessageRow.messageId := ∅
  seenMessages : Table SeenMessage SeenMessage.messageId := ∅
  outgoingQueue : List QueuedFriendPacket := []

namespace FriendTables

variable (db : FriendTables)

/-! ## Queries -/

def isPeerBlocked (peerId : PeerId) : Bool := db.blockedPeers.holds peerId

def isFriend (peerId : PeerId) : Bool := db.friends.holds peerId && !db.isPeerBlocked peerId

def getFriendRequest (requestId : String) : Option FriendRequest := db.friendRequests.find? requestId

def getPendingRequestWith (peerId : PeerId) (direction : RequestDirection) : Option FriendRequest :=
  db.friendRequests.rows.find? fun request =>
    request.pending && request.direction = direction && request.otherParty = peerId

/-! ## Friends and blocks -/

/-- The trigger `blocked_friend_insert` drops the row of a blocked peer. -/
def addFriend (peerId : PeerId) (displayName : String) (now : Time) : FriendTables :=
  if db.isPeerBlocked peerId then db
  else
    { db with
      friends := if db.friends.holds peerId then
          db.friends.updateWhere (fun row => row.peerId = peerId) (fun row => { row with displayName }) fun _ => rfl
        else db.friends.insertOrIgnore ⟨peerId, displayName, now⟩ }

def removeFriend (peerId : PeerId) : FriendTables :=
  { db with friends := db.friends.deleteWhere fun row => row.peerId = peerId }

/-- The rows a status update reaches: the trigger `blocked_request_acceptance`
skips the acceptance of a request with a blocked peer. -/
def moves (chosen : FriendRequest → Bool) (status : RequestStatus) (request : FriendRequest) : Bool :=
  chosen request &&
    !(decide (status = .accepted) && (db.isPeerBlocked request.senderId || db.isPeerBlocked request.recipientId))

/-- The trigger `accepted_request_grants_permission` for the rows it fires for. -/
def grantAll (granted : List FriendRequest) (now : Time) : FriendTables :=
  granted.foldl (fun db request => db.addFriend request.otherParty request.otherName now) db

/-- `UPDATE friend_requests SET status` with its triggers. -/
def setRequestStatus (chosen : FriendRequest → Bool) (status : RequestStatus) (now : Time) : FriendTables :=
  { db with
    friendRequests := db.friendRequests.updateWhere (db.moves chosen status)
      (fun request => { request with status, respondedAt := some now }) fun _ => rfl }.grantAll
    (db.friendRequests.rows.filter fun request =>
      db.moves chosen status request && request.pending && decide (status = RequestStatus.accepted)) now

/-- The trigger `block_revokes_permission` fires for a new row only. -/
def blockPeer (peerId : PeerId) (displayName : String) (now : Time) : FriendTables :=
  if db.isPeerBlocked peerId then
    { db with
      blockedPeers := db.blockedPeers.updateWhere (fun row => row.peerId = peerId)
        (fun row => { row with displayName }) fun _ => rfl }
  else
    let blocked := { db with blockedPeers := db.blockedPeers.insertOrIgnore ⟨peerId, displayName, now⟩ }
    (blocked.removeFriend peerId).setRequestStatus (fun request => request.pending && request.involves peerId)
      .declined now

def unblockPeer (peerId : PeerId) : FriendTables :=
  { db with blockedPeers := db.blockedPeers.deleteWhere fun row => row.peerId = peerId }

/-! ## Requests -/

def countIncoming (chosen : FriendRequest → Bool) : Nat :=
  db.friendRequests.count fun request => decide (request.direction = .incoming) && chosen request

/-- The limits of the history of incoming requests. -/
def withinRequestLimits (senderId : PeerId) (now : Time) : Bool :=
  decide (db.countIncoming (fun _ => true) < maxIncomingRequests) &&
    decide (db.countIncoming (fun request => request.senderId = senderId) < maxIncomingRequestsPerPeer) &&
    decide (db.countIncoming FriendRequest.pending < maxPendingIncomingRequests) &&
    db.countIncoming (fun request => request.senderId = senderId && request.pending) = 0 &&
    decide (db.countIncoming (fun request =>
      request.senderId = senderId && decide (now - friendRequestWindow < request.admittedAt)) < maxRequestsPerWindow)

def admitsRequest (request : FriendRequest) (now : Time) : Bool :=
  !(db.isPeerBlocked request.senderId || db.isPeerBlocked request.recipientId) &&
    (decide (request.direction ≠ .incoming) || db.withinRequestLimits request.senderId now) &&
    !db.friendRequests.holds request.requestId

/-- The tables with the request, if the statement inserts it. -/
def saveFriendRequest (request : FriendRequest) (now : Time) : FriendTables :=
  if db.admitsRequest request now then
    { db with friendRequests := db.friendRequests.insertOrIgnore { request with admittedAt := now } }
  else db

/-- What `resolve_friend_request` asks of the row it claims. -/
def resolvable (localId peerId : PeerId) (direction : RequestDirection) (requestId : String)
    (request : FriendRequest) : Bool :=
  let (senderId, recipientId) := match direction with
    | .incoming => (peerId, localId)
    | .outgoing => (localId, peerId)
  request.requestId = requestId && request.direction = direction && request.pending &&
    request.senderId = senderId && request.recipientId = recipientId && !db.isPeerBlocked peerId

def resolveFriendRequest (requestId : String) (localId peerId : PeerId) (direction : RequestDirection)
    (status : RequestStatus) (now : Time) : FriendTables :=
  db.setRequestStatus (db.resolvable localId peerId direction requestId) status now

def updateFriendRequestStatus (requestId : String) (status : RequestStatus) (now : Time) : FriendTables :=
  db.setRequestStatus (fun request => request.requestId = requestId) status now

def cancelFriendRequest (requestId : String) (now : Time) : FriendTables :=
  db.updateFriendRequestStatus requestId .cancelled now

def declinePendingRequestsWith (peerId : PeerId) (now : Time) : FriendTables :=
  db.setRequestStatus (fun request => request.pending && request.involves peerId) .declined now

/-- The part of `cleanup_expired` that drops answered requests. -/
def cleanupExpired (now : Time) : FriendTables :=
  { db with
    friendRequests := db.friendRequests.deleteWhere fun request =>
      decide (request.direction = .incoming) && !request.pending &&
        decide (request.respondedAt.getD request.createdAt < now - answeredRequestAge) }

/-- What `connect` repairs in the tables of an older version. -/
def repairPermissions (now : Time) : FriendTables :=
  { db with friends := db.friends.deleteWhere fun row => db.isPeerBlocked row.peerId }.setRequestStatus
    (fun request => request.pending && (db.isPeerBlocked request.senderId || db.isPeerBlocked request.recipientId))
    .declined now

/-! ## Messages -/

def admitsMessage (message : MessageRow) (requireFriend : Bool) : Bool :=
  (!requireFriend || (db.friends.holds message.senderId && !db.isPeerBlocked message.senderId)) &&
    !db.messages.holds message.messageId

def saveMessage (message : MessageRow) (requireFriend : Bool) : FriendTables :=
  if db.admitsMessage message requireFriend then { db with messages := db.messages.insertOrIgnore message } else db

def isOutgoingTo (messageId : String) (senderId recipientId : PeerId) (row : MessageRow) : Bool :=
  row.messageId = messageId && row.senderId = senderId && row.recipientId = recipientId

def markMessageBlocked (messageId : String) (senderId recipientId : PeerId) : FriendTables :=
  { db with
    messages := db.messages.updateWhere (isOutgoingTo messageId senderId recipientId)
      (fun row => { row with blocked := true }) fun _ => rfl }

def isMessageSeen (messageId : String) : Bool := db.seenMessages.holds messageId

def markMessageSeen (messageId : String) (now : Time) : FriendTables :=
  { db with seenMessages := db.seenMessages.insertOrIgnore { messageId, seenAt := now } }

def addToOutqueue (recipientId : PeerId) (packet : FriendPacket) (messageId : String) (now : Time) : FriendTables :=
  { db with outgoingQueue := db.outgoingQueue ++ [⟨messageId, recipientId, packet, now⟩] }

end FriendTables

end MeshTalk.Friends
