import MeshTalk.Friends.Tables
import MeshTalk.Library.Dict
import MeshTalk.Library.Task

namespace MeshTalk.Friends

open MeshTalk.Library MeshTalk.Protocol MeshTalk.Store

/-! # The friend manager

A statement and its commit are two awaits, between which other coroutines run
on the same connection.  What the peer manager knows of a peer is an answer of
the environment, as is the outcome of a send.
-/

structure FriendPeer where
  peerId : PeerId
  displayName : String
  capabilities : List String
  signingPublicKey : Option Bytes
deriving DecidableEq, Repr

def FriendPeer.supports (peer : FriendPeer) (capability : String) : Bool := decide (capability ∈ peer.capabilities)

structure FriendNode where
  db : FriendTables
  /-- What a crash leaves of the tables. -/
  committed : FriendTables
  /-- The display names of the peers table. -/
  knownNames : Dict PeerId String
  /-- The packets whose `send_packet` returned. -/
  sent : List (PeerId × FriendPacket)

structure FriendFate where
  now : Time
  newId : String
  connected : Option FriendPeer
  sendFails : Bool
deriving DecidableEq, Repr

inductive FriendPoint where
  | query
  | saveRequest (request : FriendRequest)
  | updateStatus (requestId : String) (status : RequestStatus)
  | resolve (requestId : String) (peerId : PeerId) (direction : RequestDirection) (status : RequestStatus)
  | addFriend (peerId : PeerId) (displayName : String)
  | removeFriend (peerId : PeerId)
  | declinePending (peerId : PeerId)
  | blockPeer (peerId : PeerId) (displayName : String)
  | unblockPeer (peerId : PeerId)
  | cleanup
  | saveMessage (message : MessageRow) (requireFriend : Bool)
  | markSeen (messageId : String)
  | markBlocked (messageId : String) (peerId : PeerId)
  | enqueue (recipientId : PeerId) (packet : FriendPacket) (messageId : String)
  | send (peerId : PeerId) (packet : FriendPacket)
  | commit
deriving DecidableEq, Repr

inductive FriendError where
  | refused (reason : String)
  | sendFailed
deriving DecidableEq, Repr

abbrev FriendProgram := Task FriendNode FriendFate FriendPoint FriendError

abbrev FriendAction := Handler FriendNode FriendError

def refused (reason : String) : FriendProgram α := .failed (.refused reason)

section

variable {crypto : FileCrypto} (identity : Identity crypto) (displayName : String)

namespace FriendPoint

/-- The tables after the statement of a point. -/
def statement (point : FriendPoint) (now : Time) (db : FriendTables) : FriendTables :=
  match point with
  | .saveRequest request => db.saveFriendRequest request now
  | .updateStatus requestId status => db.updateFriendRequestStatus requestId status now
  | .resolve requestId peerId direction status =>
      db.resolveFriendRequest requestId identity.peerId peerId direction status now
  | .addFriend peerId displayName => db.addFriend peerId displayName now
  | .removeFriend peerId => db.removeFriend peerId
  | .declinePending peerId => db.declinePendingRequestsWith peerId now
  | .blockPeer peerId displayName => db.blockPeer peerId displayName now
  | .unblockPeer peerId => db.unblockPeer peerId
  | .cleanup => db.cleanupExpired now
  | .saveMessage message requireFriend => db.saveMessage message requireFriend
  | .markSeen messageId => db.markMessageSeen messageId now
  | .markBlocked messageId peerId => db.markMessageBlocked messageId identity.peerId peerId
  | .enqueue recipientId packet messageId => db.addToOutqueue recipientId packet messageId now
  | .query | .send _ _ | .commit => db

/-- What resuming a task at a point does to the node. -/
def effect (point : FriendPoint) (fate : FriendFate) (node : FriendNode) : FriendNode :=
  match point with
  | .send peerId packet => if fate.sendFails then node else { node with sent := node.sent ++ [(peerId, packet)] }
  | .commit => { node with committed := node.db }
  | point => { node with db := point.statement identity fate.now node.db }

/-- Whether the statement of a point changes a row. -/
def rowcount (point : FriendPoint) (now : Time) (db : FriendTables) : Bool :=
  match point with
  | .saveRequest request => db.admitsRequest request now
  | .resolve requestId peerId direction status =>
      db.friendRequests.rows.any fun request =>
        db.moves (db.resolvable identity.peerId peerId direction requestId) status request
  | .saveMessage message requireFriend => db.admitsMessage message requireFriend
  | .markBlocked messageId peerId =>
      db.messages.rows.any (FriendTables.isOutgoingTo messageId identity.peerId peerId)
  | _ => true

end FriendPoint

/-- A read of the tables, with what else the environment answers then. -/
def ask (answer : FriendFate → FriendNode → α) : FriendProgram α :=
  Task.perform .query fun fate => do
    let node ← Handler.read
    pure (answer fate node)

def query (read : FriendTables → α) : FriendProgram α := ask fun _ node => read node.db

/-- `await self._db.commit()`. -/
def commit : FriendProgram Unit := Task.perform .commit fun fate => Handler.change (FriendPoint.commit.effect identity fate)

/-- A statement and its commit; whether a row changed. -/
def execute (point : FriendPoint) : FriendProgram Bool := do
  let changed ← Task.perform point fun fate => do
    let node ← Handler.read
    Handler.change (point.effect identity fate)
    pure (point.rowcount identity fate.now node.db)
  commit identity
  pure changed

def sendPacket (peerId : PeerId) (packet : FriendPacket) : FriendProgram Unit :=
  Task.perform (.send peerId packet) fun fate => do
    Handler.change ((FriendPoint.send peerId packet).effect identity fate)
    Handler.refuse (fate.sendFails = true) .sendFailed

/-- A packet to a peer that was connected when it was looked up, or its row of the queue. -/
def deliver (connected : Option FriendPeer) (peerId : PeerId) (packet : FriendPacket) (messageId : String) :
    FriendProgram Unit :=
  match connected with
  | some _ => sendPacket identity peerId packet
  | none => do
      let _ ← execute identity (.enqueue peerId packet messageId)
      pure ()

def onlyIf (condition : Bool) (body : FriendProgram Unit) : FriendProgram Unit := if condition then body else pure ()

def signed (document : Json) : Bytes := identity.sign (crypto.canonical document)

def cancellation (requestId : String) : FriendPacket :=
  let payload : FriendRequestCancelledPayload := ⟨requestId, identity.peerId, []⟩
  .cancelled { payload with signature := signed identity payload.unsigned }

def response (requestId : String) (accept : Bool) : FriendPacket :=
  let payload : FriendRequestResponsePayload := ⟨requestId, identity.peerId, accept, []⟩
  .response { payload with signature := signed identity payload.unsigned }

def blockedNotice (messageId : String) : FriendPacket :=
  let payload : MessageBlockedPayload := ⟨messageId, identity.peerId, []⟩
  .blocked { payload with signature := signed identity payload.unsigned }

/-! ## Operations of the user -/

def requestPayload (requestId note : String) (now : Time) : FriendRequestPayload :=
  let payload : FriendRequestPayload := ⟨requestId, identity.peerId, note, .real now, []⟩
  { payload with signature := signed identity payload.unsigned }

def outgoingRequest (peerId : PeerId) (recipientName requestId note : String) (now : Time) : FriendRequest where
  requestId := requestId
  senderId := identity.peerId
  senderName := displayName
  recipientId := peerId
  recipientName := recipientName
  note := if note = "" then none else some note
  createdAt := now
  direction := .outgoing
  status := .pending
  respondedAt := none
  admittedAt := 0

def unsupported (connected : Option FriendPeer) : Bool :=
  connected.any fun peer => !peer.supports capFriendRequests

/-- `send_friend_request`, with the note stripped. -/
def sendFriendRequest (peerId : PeerId) (note : String) : FriendProgram Unit := do
  if maxFriendNoteLength < note.toList.length then refused "Friend request note is too long"
  else if peerId = identity.peerId then refused "Cannot send a friend request to yourself"
  else if ← query fun db => db.isFriend peerId then refused "This peer is already your friend"
  else if ← query fun db => db.isPeerBlocked peerId then
    refused "This peer is blocked; unblock them to send a friend request"
  else do
    let (pending, fate) ← ask fun fate node => (node.db.getPendingRequestWith peerId .outgoing, fate)
    if pending.isSome then refused "A friend request to this peer is already pending"
    else if unsupported fate.connected then refused "Peer does not support friend requests"
    else do
      let stored ← ask fun _ node => node.knownNames.get? peerId
      let recipientName := match fate.connected with
        | some peer => peer.displayName
        | none => stored.getD "Anonymous"
      let _ ← execute identity
        (.saveRequest (outgoingRequest identity displayName peerId recipientName fate.newId note fate.now))
      deliver identity fate.connected peerId (.request (requestPayload identity fate.newId note fate.now)) fate.newId

/-- An own request to a peer that has just become a friend is withdrawn. -/
def withdrawRequest (peerId : PeerId) : FriendProgram Unit := do
  match ← query fun db => db.getPendingRequestWith peerId .outgoing with
  | none => pure ()
  | some outgoing => do
      let _ ← execute identity (.updateStatus outgoing.requestId .cancelled)
      let connected ← ask fun fate _ => fate.connected
      deliver identity connected peerId (cancellation identity outgoing.requestId) outgoing.requestId

/-- The request a user may still answer or cancel. -/
def open? (direction : RequestDirection) (found : Option FriendRequest) : Option FriendRequest :=
  found.filter fun request => decide (request.direction = direction) && request.pending

/-- What an accepted request brings besides its status. -/
def befriend (request : FriendRequest) : FriendProgram Unit := do
  let _ ← execute identity (.addFriend request.senderId request.senderName)
  withdrawRequest identity request.senderId

def respondToFriendRequest (requestId : String) (accept : Bool) : FriendProgram Unit := do
  let (found, connected) ← ask fun fate node => (node.db.getFriendRequest requestId, fate.connected)
  match open? .incoming found with
  | none => refused "Unknown or already answered friend request"
  | some request =>
      if unsupported connected then refused "Peer does not support friend requests"
      else do
        let _ ← execute identity (.updateStatus requestId (if accept then .accepted else .declined))
        onlyIf accept (befriend identity request)
        deliver identity connected request.senderId (response identity requestId accept) requestId

/-- `cancel_friend_request` of the manager. -/
def cancelFriendRequest (requestId : String) : FriendProgram Unit := do
  let (found, connected) ← ask fun fate node => (node.db.getFriendRequest requestId, fate.connected)
  match open? .outgoing found with
  | none => refused "Unknown or already answered friend request"
  | some request =>
      if unsupported connected then refused "Peer does not support friend requests"
      else do
        let _ ← execute identity (.updateStatus requestId .cancelled)
        deliver identity connected request.recipientId (cancellation identity requestId) requestId

def unfriend (peerId : PeerId) : FriendProgram Unit := do
  if ← query fun db => db.isFriend peerId then do
    let _ ← execute identity (.removeFriend peerId)
    pure ()
  else refused "This peer is not your friend"

def blockPeer (peerId : PeerId) : FriendProgram Unit := do
  if peerId = identity.peerId then refused "You cannot block yourself"
  else if ← query fun db => db.isPeerBlocked peerId then refused "This peer is already blocked"
  else do
    let blockedName ← ask fun fate node =>
      (node.knownNames.get? peerId).getD ((fate.connected.map FriendPeer.displayName).getD "Anonymous")
    let _ ← execute identity (.removeFriend peerId)
    let _ ← execute identity (.declinePending peerId)
    let _ ← execute identity (.blockPeer peerId blockedName)
    pure ()

def unblockPeer (peerId : PeerId) : FriendProgram Unit := do
  if ← query fun db => db.isPeerBlocked peerId then do
    let _ ← execute identity (.unblockPeer peerId)
    pure ()
  else refused "This peer is not blocked"

/-! ## Packets of peers -/

/-- `_verify_peer_signature` around what follows it. -/
def verified (crypto : FileCrypto) (peer : FriendPeer) (document : Json) (signature : Bytes) (accepted : FriendProgram Unit) :
    FriendProgram Unit :=
  match peer.signingPublicKey with
  | none => refused "Friend packet received before authentication"
  | some key =>
      if crypto.verify key signature (crypto.canonical document) then accepted
      else refused "Invalid friend packet signature"

def incomingRequest (peer : FriendPeer) (payload : FriendRequestPayload) : FriendRequest where
  requestId := payload.requestId
  senderId := payload.senderId
  senderName := peer.displayName
  recipientId := identity.peerId
  recipientName := displayName
  note := if payload.note = "" then none else some payload.note
  createdAt := payload.createdAt.value
  direction := .incoming
  status := .pending
  respondedAt := none
  admittedAt := 0

/-- `_handle_friend_request` past the signature. -/
def admitFriendRequest (peer : FriendPeer) (payload : FriendRequestPayload) : FriendProgram Unit := do
  if ← query fun db => db.isPeerBlocked payload.senderId then pure ()
  else if ← query fun db => (db.getFriendRequest payload.requestId).isSome then pure ()
  else if ← query fun db => db.isFriend payload.senderId then
    sendPacket identity peer.peerId (response identity payload.requestId true)
  else if ← query fun db => (db.getPendingRequestWith payload.senderId .incoming).isSome then pure ()
  else do
    let _ ← execute identity (.saveRequest (incomingRequest identity displayName peer payload))
    pure ()

def handleFriendRequest (peer : FriendPeer) (payload : FriendRequestPayload) : FriendProgram Unit :=
  if payload.valid = false then refused "Invalid friend request payload"
  else if payload.senderId ≠ peer.peerId then refused "Friend request sender does not match authenticated peer"
  else if peer.supports capFriendRequests = false then pure ()
  else verified crypto peer payload.unsigned payload.signature
    (admitFriendRequest identity displayName peer payload)

def handleFriendResponse (peer : FriendPeer) (payload : FriendRequestResponsePayload) : FriendProgram Unit :=
  if payload.valid = false then refused "Invalid friend request response payload"
  else if payload.responderId ≠ peer.peerId then refused "Friend response peer does not match authenticated peer"
  else if peer.supports capFriendRequests = false then pure ()
  else verified crypto peer payload.unsigned payload.signature do
    let found ← query fun db => db.getFriendRequest payload.requestId
    match open? .outgoing found with
    | none => pure ()
    | some _ =>
        if ← execute identity
            (.resolve payload.requestId peer.peerId .outgoing (if payload.accept then .accepted else .declined)) then
          if payload.accept then do
            let _ ← execute identity (.addFriend payload.responderId peer.displayName)
            pure ()
          else pure ()
        else pure ()

def handleFriendCancelled (peer : FriendPeer) (payload : FriendRequestCancelledPayload) : FriendProgram Unit :=
  if payload.valid = false then refused "Invalid friend request cancelled payload"
  else if payload.senderId ≠ peer.peerId then refused "Friend cancelled peer does not match authenticated peer"
  else if peer.supports capFriendRequests = false then pure ()
  else verified crypto peer payload.unsigned payload.signature do
    let found ← query fun db => db.getFriendRequest payload.requestId
    match open? .incoming found with
    | none => pure ()
    | some _ => do
        let _ ← execute identity (.resolve payload.requestId peer.peerId .incoming .cancelled)
        pure ()

def handleMessageBlocked (peer : FriendPeer) (payload : MessageBlockedPayload) : FriendProgram Unit :=
  if payload.valid = false then refused "Invalid blocked message payload"
  else if payload.blockedBy ≠ peer.peerId then refused "Blocked notice peer does not match authenticated peer"
  else if peer.supports capBlockReports = false then pure ()
  else verified crypto peer payload.unsigned payload.signature do
    if ← execute identity (.markBlocked payload.messageId peer.peerId) then
      if ← query fun db => db.isFriend peer.peerId then do
        let _ ← execute identity (.removeFriend peer.peerId)
        pure ()
      else pure ()
    else pure ()

/-- `FriendManager.handle_packet`; a receipt is none of its packets. -/
def handlePacket (peer : FriendPeer) : FriendPacket → FriendProgram Unit
  | .request payload => handleFriendRequest identity displayName peer payload
  | .response payload => handleFriendResponse identity peer payload
  | .cancelled payload => handleFriendCancelled identity peer payload
  | .blocked payload => handleMessageBlocked identity peer payload
  | .receipt _ => pure ()

/-! ## Direct messages of peers -/

def maxMessageContentSize : Nat := 30 * 1024

def sendDeliveryReceipt (peer : FriendPeer) (messageId : String) : FriendProgram Unit :=
  if peer.supports capDeliveryReceipts then sendPacket identity peer.peerId (.receipt messageId) else pure ()

def sendBlockedNotice (peer : FriendPeer) (message : MessagePayload) : FriendProgram Unit :=
  if peer.supports capBlockReports then sendPacket identity peer.peerId (blockedNotice identity message.messageId)
  else pure ()

def receivedMessage (message : MessagePayload) (content : String) (now : Time) : MessageRow where
  messageId := message.messageId
  senderId := message.senderId
  recipientId := message.recipientId
  content := some content
  encryptedContent := message.encryptedContent
  createdAt := message.createdAt.value
  readAt := none
  receivedAt := some now
  replyToMessageId := message.replyToMessageId
  blocked := false

/-- What the signature and the encryption of a message hide. -/
def openContent (key : Bytes) (message : MessagePayload) : Except String (Bytes × String) :=
  if crypto.verify key message.signature (message.signedBytes crypto) then
    match identity.decryptAsRecipient message.encryptedContent message.associatedData with
    | none => .error "Invalid encrypted message"
    | some plaintext =>
        match decodeUtf8 plaintext with
        | none => .error "Invalid encrypted message"
        | some content => .ok (plaintext, content)
  else .error "Invalid encrypted message"

/-- `_handle_message` of a friend's message. -/
def acceptMessage (peer : FriendPeer) (key : Bytes) (message : MessagePayload) : FriendProgram Unit := do
  if message.hopCount ≠ 0 ∨ message.maxHops ≠ 0 then refused "Invalid direct message metadata"
  else if message.signature.length ≠ 64 then refused "Invalid message signature"
  else do
    let (seen, now) ← ask fun fate node => (node.db.isMessageSeen message.messageId, fate.now)
    if seen then sendDeliveryReceipt identity peer message.messageId
    else
      match openContent identity key message with
      | .error reason => refused reason
      | .ok (plaintext, content) =>
          if maxMessageContentSize < plaintext.length then refused "Message exceeds 30 KiB limit"
          else if ← execute identity (.saveMessage (receivedMessage message content now) true) then do
            let _ ← execute identity (.markSeen message.messageId)
            sendDeliveryReceipt identity peer message.messageId
          else pure ()

/-- `_handle_message` of a decoded packet. -/
def handleMessage (peer : FriendPeer) (message : MessagePayload) : FriendProgram Unit :=
  if message.valid = false then refused "Invalid message payload"
  else if message.recipientId ≠ identity.peerId then pure ()
  else
    match if message.senderId = peer.peerId then peer.signingPublicKey else none with
    | none => refused "Message sender does not match authenticated peer"
    | some key =>
        if (message.replyToMessageId.getD "" ≠ "" && !peer.supports capMessageReplies) = true then
          refused "Peer sent a message reply without negotiating support"
        else do
          if ← query fun db => db.isFriend message.senderId then acceptMessage identity peer key message
          else sendBlockedNotice identity peer message

/-! ## The service -/

/-- What starts a coroutine.  `store` is `save_message` of an own message. -/
inductive FriendJob where
  | send (peerId : PeerId) (note : String)
  | respond (requestId : String) (accept : Bool)
  | cancel (requestId : String)
  | unfriend (peerId : PeerId)
  | block (peerId : PeerId)
  | unblock (peerId : PeerId)
  | packet (peer : FriendPeer) (packet : FriendPacket)
  | message (peer : FriendPeer) (message : MessagePayload)
  | store (message : MessageRow)
  | cleanup
deriving DecidableEq, Repr

def runStatement (point : FriendPoint) : FriendProgram Unit := do
  let _ ← execute identity point
  pure ()

def friendProgram : FriendJob → FriendProgram Unit
  | .send peerId note => sendFriendRequest identity displayName peerId note
  | .respond requestId accept => respondToFriendRequest identity requestId accept
  | .cancel requestId => cancelFriendRequest identity requestId
  | .unfriend peerId => unfriend identity peerId
  | .block peerId => blockPeer identity peerId
  | .unblock peerId => unblockPeer identity peerId
  | .packet peer packet => handlePacket identity displayName peer packet
  | .message peer message => handleMessage identity peer message
  | .store message => runStatement identity (.saveMessage message false)
  | .cleanup => runStatement identity .cleanup

/-- The tables as `connect` leaves them. -/
def FriendNode.opened (tables : FriendTables) (knownNames : Dict PeerId String) (now : Time) : FriendNode where
  db := tables.repairPermissions now
  committed := tables.repairPermissions now
  knownNames := knownNames
  sent := []

/-- Crashes leave what was committed; `restartedAt` is the clock of the next start. -/
def friendService (restartedAt : Time) : Service FriendNode FriendFate FriendPoint FriendError FriendJob where
  program := fun job _ => friendProgram identity displayName job
  reboot := fun node => FriendNode.opened node.committed node.knownNames restartedAt

end

end MeshTalk.Friends
