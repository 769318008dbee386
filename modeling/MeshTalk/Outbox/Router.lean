import MeshTalk.Outbox.Node
import MeshTalk.Protocol.FriendPayloads

namespace MeshTalk.Outbox

open MeshTalk.Library MeshTalk.Protocol MeshTalk.Store MeshTalk.Groups

/-! # Sending, queueing and flushing

The direct and the group router, the flush of the queue and what else touches
its tables.
-/

/-- What writing a packet takes besides the identity: `json.dumps`,
`encrypt_for_recipient`, and the mentions of a text with the names of the roster. -/
structure PacketWriter where
  dumps : Json → Bytes
  encryptForRecipient : Bytes → Bytes → Json → Bytes
  renderMentionsPlain : String → String

section

variable {crypto : FileCrypto} (identity : Identity crypto) (writer : PacketWriter)

/-- Whether a reply can be sent, as far as it is one. -/
def supportsReply (peer : Option GroupPeer) (recipientId : PeerId) (replyToMessageId : Option String) :
    OutboxProgram Bool :=
  if given replyToMessageId then
    match peer with
    | some peer => pure (peer.supports capMessageReplies)
    | none => query fun node => node.peerSupports recipientId capMessageReplies
  else pure true

/-! ## Direct messages -/

def maxMessageContentSize : Nat := 30 * 1024

def directPayload (key : Bytes) (recipientId : PeerId) (plaintext : Bytes) (replyToMessageId : Option String)
    (messageId : String) (now : Time) : MessagePayload :=
  let bare : MessagePayload :=
    { messageId, senderId := identity.peerId, recipientId, createdAt := .real now, hopCount := 0, maxHops := 0
      encryptedContent := [], signature := [], replyToMessageId }
  let sealedPayload := { bare with encryptedContent := writer.encryptForRecipient key plaintext bare.associatedData }
  { sealedPayload with signature := identity.sign (sealedPayload.signedBytes crypto) }

/-- The row `send_message` stores; it is queued if its recipient is not connected. -/
def sentRow (payload : MessagePayload) (content : String) (queued : Bool) (now : Time) : SentMessage where
  messageId := payload.messageId
  senderId := payload.senderId
  recipientId := payload.recipientId
  content := some content
  encryptedContent := payload.encryptedContent
  createdAt := payload.createdAt.value
  readAt := some now
  replyToMessageId := payload.replyToMessageId
  receivedAt := none
  delivered := false
  queued := queued
  failed := false
  blocked := false

def queueMessage (recipientId : PeerId) (messageId : String) (encoded : Bytes) : OutboxProgram Unit :=
  execute (.enqueue recipientId PacketType.message.value encoded (some messageId) none)

/-- The end of `send_message`, with the message stored. -/
def deliverMessage (peer : Option GroupPeer) (recipientId : PeerId) (messageId : String) (encoded : Bytes) :
    OutboxProgram Unit :=
  match peer with
  | none => queueMessage recipientId messageId encoded
  | some peer => do
      if ← transmit (.send peer.peerId (liveMessage encoded)) then pure ()
      else do
        queueMessage recipientId messageId encoded
        execute (.markQueued messageId)

/-- `send_message` past its checks of the peer. -/
def composeMessage (peer : Option GroupPeer) (key : Bytes) (recipientId : PeerId) (plaintext : Bytes)
    (replyToMessageId : Option String) : OutboxProgram Unit := do
  let (messageId, now) ← ask fun fate _ => (fate.newId, fate.now)
  let payload := directPayload identity writer key recipientId plaintext replyToMessageId messageId now
  let encoded := writer.dumps payload.json
  if maxPacketSize < encoded.length then refused "Encrypted message exceeds packet limit"
  else
    match decodeUtf8 plaintext with
    | none => refused "invalid utf-8"
    | some content => do
        execute (.saveMessage (sentRow payload content peer.isNone now))
        execute (.markSeen messageId)
        deliverMessage peer recipientId messageId encoded

/-- `MessageRouter.send_message`. -/
def sendMessage (recipientId : PeerId) (plaintext : Bytes) (replyToMessageId : Option String) : OutboxProgram Unit := do
  if maxMessageContentSize < plaintext.length then refused "Message exceeds 30 KiB limit"
  else do
    let peer ← ask fun fate _ => fate.connectedTo recipientId
    if peer.any fun peer => !peer.supports capTextChat then refused "Peer does not support text chat"
    else if ← supportsReply peer recipientId replyToMessageId then do
      let known ← query fun node => node.publicKeyOf recipientId
      match (peer.bind GroupPeer.encryptionPublicKey).or (known.filter fun key => key ≠ []) with
      | none => refused "No known public key for recipient; connect once before sending offline"
      | some key => composeMessage identity writer peer key recipientId plaintext replyToMessageId
    else refused "Peer does not support message replies"

/-! ## Group messages -/

/-- `_prune_group_history`. -/
def pruneGroupHistory (groupId : String) : OutboxProgram Unit := do
  act (.pruneSettled groupId)
  act (.pruneBeyondHardLimit groupId)
  act .dropOrphanDeliveries
  execute (.dropOrphanQueued groupId)

/-- `save_group_message`. -/
def saveGroupMessage (message : GroupMessage) : OutboxProgram Unit := do
  let inserted ← Task.perform (.saveGroupMessage message) fun fate => do
    let node ← Handler.read
    Handler.change ((OutboxPoint.saveGroupMessage message).effect fate)
    pure !node.tables.db.groupMessages.holds message.messageId
  act .commit
  onlyIf inserted (pruneGroupHistory message.groupId)

def originBytes (messageId groupId : String) (now : Time) (replyToMessageId : Option String) (content : Bytes) : Bytes :=
  crypto.canonical (groupOrigin messageId groupId identity.peerId (.real now) replyToMessageId (crypto.sha256 content))

/-- The packet of a member. -/
def groupPayload (key : Bytes) (recipientId : PeerId) (messageId groupId : String) (outgoing : Bytes)
    (replyToMessageId : Option String) (now : Time) : GroupMessagePayload :=
  let bare : GroupMessagePayload :=
    { messageId, groupId, senderId := identity.peerId, recipientId, createdAt := .real now, encryptedContent := []
      signature := [], replyToMessageId
      originSignature := identity.sign (originBytes identity messageId groupId now replyToMessageId outgoing) }
  let sealedPayload := { bare with encryptedContent := writer.encryptForRecipient key outgoing bare.associatedData }
  { sealedPayload with signature := identity.sign (sealedPayload.signedBytes crypto) }

def groupRow (messageId groupId content : String) (replyToMessageId : Option String) (now : Time) : GroupMessage where
  messageId := messageId
  groupId := groupId
  senderId := identity.peerId
  content := some content
  createdAt := now
  receivedAt := none
  kind := .message
  replyToMessageId := replyToMessageId
  originSignature := some (identity.sign (originBytes identity messageId groupId now replyToMessageId (encodeUtf8 content)))
  rowid := 0

/-- The packet of a member that could not be sent goes to the queue, within its bound. -/
def queueCopy (self : Nat) (messageId groupId : String) (recipientId : PeerId) (encoded : Bytes) : OutboxProgram Unit := do
  mayRaise
  let waiting ← query fun node => node.tables.db.countQueuedPackets recipientId PacketType.groupMessage.value
  if Database.maxQueuedGroupPerPeer ≤ waiting then execute (.endAttempt self messageId recipientId .unavailable)
  else do
    mayRaise
    execute (.enqueue recipientId PacketType.groupMessage.value encoded (some messageId) (some groupId))
    mayRaise
    execute (.endAttempt self messageId recipientId .queued)

/-- The two ways a packet takes to a member. -/
def deliverCopy (self : Nat) (peer : Option GroupPeer) (messageId groupId : String) (recipientId : PeerId)
    (encoded : Bytes) : OutboxProgram Unit := do
  let queueing := (queueCopy self messageId groupId recipientId encoded).recover fun _ =>
    execute (.endAttempt self messageId recipientId .unavailable)
  match peer with
  | none => queueing
  | some peer => do
      execute (.beginAttempt self messageId recipientId)
      if ← transmit (.sendCopy self messageId peer.peerId (liveGroupMessage encoded)) then pure () else queueing

/-- The plaintext for a member, with the mentions written out where it does not know them. -/
def outgoingText (peer : Option GroupPeer) (recipientId : PeerId) (content : String) : OutboxProgram Bytes := do
  let supported ← match peer with
    | some peer => pure (peer.supports capAtMentions)
    | none => query fun node => node.peerSupports recipientId capAtMentions
  pure (encodeUtf8 (if supported then content else writer.renderMentionsPlain content))

/-- One member of the fan-out, with a key. -/
def sendCopyTo (self : Nat) (peer : Option GroupPeer) (key : Bytes) (messageId groupId : String) (recipientId : PeerId)
    (content : String) (replyToMessageId : Option String) (now : Time) : OutboxProgram Unit := do
  let outgoing ← outgoingText writer peer recipientId content
  let encoded := writer.dumps (groupPayload identity writer key recipientId messageId groupId outgoing replyToMessageId now).json
  if maxGroupMessageContentSize < outgoing.length ∨ maxPacketSize < encoded.length then
    execute (.setDelivery messageId recipientId .unavailable)
  else deliverCopy self peer messageId groupId recipientId encoded

/-- One member of the fan-out, with whether its `group_capable` is 0. -/
def sendToMember (self : Nat) (messageId groupId content : String) (replyToMessageId : Option String) (now : Time)
    (member : PeerId × Bool) : OutboxProgram Unit := do
  let (recipientId, incapable) := member
  let (blocked, peer) ← ask fun fate node => (node.tables.db.isPeerBlocked recipientId, fate.connectedTo recipientId)
  if blocked then pure ()
  else do
    let known ← query fun node => node.publicKeyOf recipientId
    let key := (match peer with | some peer => peer.encryptionPublicKey | none => known).getD []
    if key = [] ∨ incapable = true ∨ peer.any (fun peer => !peer.supports capGroupChat) = true then
      execute (.setDelivery messageId recipientId .unavailable)
    else if ← supportsReply peer recipientId replyToMessageId then
      sendCopyTo identity writer self peer key messageId groupId recipientId content replyToMessageId now
    else execute (.setDelivery messageId recipientId .unavailable)

/-- The delivery of a member before the fan-out. -/
def registerMember (messageId : String) (member : PeerId × Bool) : OutboxProgram Unit := do
  let blocked ← query fun node => node.tables.db.isPeerBlocked member.1
  execute (.setDelivery messageId member.1 (if blocked then .unavailable else .pending))

/-- `GroupRouter.send_message` past its checks. -/
def fanOut (self : Nat) (messageId groupId content : String) (replyToMessageId : Option String) (now : Time) :
    OutboxProgram Unit := do
  saveGroupMessage (groupRow identity messageId groupId content replyToMessageId now)
  execute (.markSeen messageId)
  let members ← query fun node =>
    ((node.activeMembers groupId).take Database.maxGroupMembers).filter fun member => member.1 ≠ identity.peerId
  Task.forEach members (registerMember messageId)
  Task.forEach members (sendToMember identity writer self messageId groupId content replyToMessageId now)

def sendGroupMessage (self : Nat) (groupId : String) (plaintext : Bytes) (replyToMessageId : Option String) :
    OutboxProgram Unit := do
  if maxGroupMessageContentSize < plaintext.length then refused "Message exceeds 30 KiB limit"
  else do
    let (named, messageId, now) ← ask fun fate node => (node.namesRoom groupId, fate.newId, fate.now)
    if named then
      match decodeUtf8 plaintext with
      | none => refused "invalid utf-8"
      | some content => fanOut identity writer self messageId groupId content replyToMessageId now
    else refused "Unknown group"

/-! ## Acknowledgements of group messages -/

/-- One copy of an acknowledgement waits for a sender that is away, within a bound. -/
def queueAck (targetId : PeerId) (groupId : String) (encoded : Bytes) : OutboxProgram Unit := do
  mayRaise
  if ← query fun node => node.tables.db.hasQueuedPayload targetId PacketType.groupMessageAck.value encoded then pure ()
  else do
    let waiting ← query fun node => node.tables.db.countQueuedPackets targetId PacketType.groupMessageAck.value
    if Database.maxQueuedAcksPerPeer ≤ waiting then pure ()
    else execute (.enqueue targetId PacketType.groupMessageAck.value encoded none (some groupId))

/-- `_forward_ack`. -/
def forwardAck (peer : GroupPeer) (acknowledgement : GroupAckPayload) (message : GroupMessage) : OutboxProgram Unit := do
  let targetId := message.senderId
  if targetId = identity.peerId ∨ targetId = peer.peerId then pure ()
  else if ← query fun node => node.tables.db.isActiveMember message.groupId targetId then do
    let (blocked, target) ← ask fun fate node => (node.tables.db.isPeerBlocked targetId, fate.connectedTo targetId)
    let encoded := writer.dumps acknowledgement.json
    if blocked = true ∨ maxPacketSize < encoded.length then pure ()
    else
      let queueing : OutboxProgram Unit := do
        if ← query fun node => node.peerSupports targetId capGroupRelay then
          (queueAck targetId message.groupId encoded).recover fun _ => pure ()
        else pure ()
      match target.filter fun target => target.supports capGroupChat with
      | none => queueing
      | some target =>
          if target.supports capGroupRelay then do
            if ← transmit (.send targetId ⟨.live .groupMessageAck, encoded⟩) then pure () else queueing
          else pure ()

/-- Who acknowledges: the peer itself, or another whose key is known, by way of a member. -/
def acknowledgementKey (crypto : FileCrypto) (peer : GroupPeer) (acknowledgement : GroupAckPayload) : OutboxProgram (Option Bytes) := do
  if acknowledgement.recipientId = peer.peerId then
    match peer.signingPublicKey with
    | none => refused "Group acknowledgement identity mismatch"
    | some key =>
        if crypto.verify key acknowledgement.signature (crypto.canonical acknowledgement.unsigned) then pure (some key)
        else refused "Invalid group acknowledgement signature"
  else if ← query fun node => node.tables.db.isPeerBlocked peer.peerId then pure none
  else
    match ← query fun node => node.signingKeyOf acknowledgement.recipientId with
    | none => refused "Unknown acknowledgement signing key"
    | some key =>
        if crypto.verify key acknowledgement.signature (crypto.canonical acknowledgement.unsigned) then
          if ← query fun node => node.tables.db.isActiveMember acknowledgement.groupId peer.peerId then pure (some key)
          else refused "Unknown group acknowledgement"
        else refused "Invalid forwarded group acknowledgement signature"

/-- `_handle_ack` past the signature. -/
def applyAck (peer : GroupPeer) (key : Bytes) (acknowledgement : GroupAckPayload) : OutboxProgram Unit := do
  match ← query fun node => node.tables.db.groupMessages.find? acknowledgement.messageId with
  | none => refused "Unknown group acknowledgement"
  | some message =>
      if message.groupId ≠ acknowledgement.groupId then refused "Unknown group acknowledgement"
      else if message.senderId ≠ identity.peerId then
        onlyIf (decide (acknowledgement.recipientId = peer.peerId)) (forwardAck identity writer peer acknowledgement message)
      else if ← query fun node =>
          decide (acknowledgement.recipientId ∈ node.tables.db.deliveryRecipients acknowledgement.messageId) then
        execute (.confirm key acknowledgement)
      else refused "Unknown group acknowledgement"

/-- `_handle_ack` of a decoded packet; the verdict of `_check_rate` is the environment's. -/
def handleAck (peer : GroupPeer) (acknowledgement : GroupAckPayload) : OutboxProgram Unit := do
  if acknowledgement.valid = false then refused "Invalid group acknowledgement"
  else if ← ask fun fate _ => fate.withinRate then
    match ← acknowledgementKey crypto peer acknowledgement with
    | none => pure ()
    | some key => applyAck identity writer peer key acknowledgement
  else pure ()

/-! ## The flush -/

/-- `can_flush`. -/
def canFlush (peer : GroupPeer) (row : OutgoingRow) : OutboxProgram Bool := do
  if given row.groupId = false then pure true
  else if peer.supports capGroupChat = false then pure false
  else if row.packetType = PacketType.groupLeave.value then pure true
  else if row.packetType = PacketType.groupMessageAck.value ∧ given row.messageId = false ∧
      peer.supports capGroupRelay = false then pure false
  else do
    let groupId := row.groupId.getD ""
    let named ← query fun node => node.namesRoom groupId
    let active ← query fun node => node.tables.db.isActiveMember groupId peer.peerId
    if named && active then do
      let blocked ← query fun node => node.tables.db.isPeerBlocked peer.peerId
      pure !blocked
    else pure false

/-- A row that the peer cannot take: its message is settled and the row goes. -/
def refuseRow (self : Nat) (peerId : PeerId) (row : OutgoingRow) (fails : Bool) : OutboxProgram Unit := do
  let messageId := row.messageId.getD ""
  onlyIf (given row.messageId && given row.groupId) (execute (.setDelivery messageId peerId .unavailable))
  onlyIf (given row.messageId && !given row.groupId && fails) (execute (.markFailed messageId))
  execute (.remove self row.id)

/-- The send of a row, with the status that it announces. -/
def flushRow (self : Nat) (peer : GroupPeer) (row : OutgoingRow) (type : PacketType) : OutboxProgram Unit := do
  let messageId := row.messageId.getD ""
  onlyIf (isGroupCopy row) (execute (.beginAttempt self messageId peer.peerId))
  if ← transmit (.sendQueued self row peer.peerId ⟨.live type, row.encryptedPayload⟩) then do
    onlyIf (given row.messageId && !isGroupCopy row) (execute (.markSent messageId))
    execute (.remove self row.id)
  else execute (.increment row.id)

/-- One row of the flush; types that are retired or unknown are discarded. -/
def flushItem (self : Nat) (peer : GroupPeer) (row : OutgoingRow) : OutboxProgram Unit := do
  match PacketType.ofValue? row.packetType with
  | none => execute (.remove self row.id)
  | some type =>
      if type ∈ filePacketTypes then pure ()
      else if (capabilityForPacket type).any fun capability => !peer.supports capability then
        refuseRow self peer.peerId row true
      else if ← canFlush peer row then flushRow self peer row type
      else refuseRow self peer.peerId row false

/-- `flush_outgoing` past the files. -/
def flushOutgoing (self : Nat) (peerId : PeerId) : OutboxProgram Unit := do
  match ← ask fun fate _ => fate.connectedTo peerId with
  | none => pure ()
  | some peer => do
      let items ← Task.perform (.readPending self peerId) fun fate => do
        let node ← Handler.read
        Handler.change ((OutboxPoint.readPending self peerId).effect fate)
        pure (node.tables.db.getPendingOutgoing peerId)
      Task.forEach items (flushItem self peer)

/-! ## Deletions -/

def deleteMessageLocally (messageId : String) (groupId : Option String) : OutboxProgram Unit := do
  act (.dropQueued messageId)
  match groupId with
  | none => execute (.dropMessage messageId)
  | some groupId => do
      act (.dropGroupMessage messageId groupId)
      execute (.dropDeliveries messageId)

def leaveRow (groupId messageId : String) (now : Time) : GroupMessage where
  messageId := messageId
  groupId := groupId
  senderId := identity.peerId
  content := some "You left the group"
  createdAt := now
  receivedAt := some now
  kind := .leave
  replyToMessageId := none
  originSignature := none
  rowid := 0

def leavePayload (groupId eventId : String) (now : Time) : GroupLeavePayload :=
  let bare : GroupLeavePayload := ⟨eventId, groupId, identity.peerId, .real now, []⟩
  { bare with signature := identity.sign (crypto.canonical bare.unsigned) }

/-- The leave of one member that is left behind. -/
def announceLeave (groupId : String) (encoded : Bytes) (member : PeerId × Bool) : OutboxProgram Unit := do
  let queueing : OutboxProgram Unit := onlyIf member.2
    (execute (.enqueue member.1 PacketType.groupLeave.value encoded none (some groupId)))
  let peer ← ask fun fate _ => fate.connectedTo member.1
  match peer.filter fun peer => peer.supports capGroupChat with
  | none => queueing
  | some _ => do
      if ← transmit (.send member.1 ⟨.live .groupLeave, encoded⟩) then pure () else queueing

/-- `leave_group`. -/
def leaveGroup (groupId : String) : OutboxProgram Unit := do
  if ← query fun node => node.namesRoom groupId then do
    let members ← query fun node => node.otherMembers groupId identity.peerId
    let (eventId, now) ← ask fun fate _ => (fate.newId, fate.now)
    let encoded := writer.dumps (leavePayload identity groupId eventId now).json
    let (rowId, savedAt) ← ask fun fate _ => (fate.newId, fate.now)
    saveGroupMessage (leaveRow identity groupId rowId savedAt)
    execute (.removeGroup groupId)
    Task.forEach members (announceLeave groupId encoded)
  else refused "Unknown group"

end

/-! ## The service -/

/-- A peer past its handshake: its id is the hash of its signing key. -/
structure AuthenticatedPeer (crypto : FileCrypto) extends GroupPeer where
  certified : ∀ key, signingPublicKey = some key → crypto.sha256 key = peerId

/-- What starts a coroutine.  `incoming` and `incomingGroup` store messages of
others, `enqueue` and `removeFile` are what other components do to the queue. -/
inductive OutboxJob (crypto : FileCrypto) where
  | sendMessage (recipientId : PeerId) (plaintext : Bytes) (replyToMessageId : Option String)
  | receipt (peer : AuthenticatedPeer crypto) (messageId : String)
  | blockedNotice (peer : AuthenticatedPeer crypto) (messageId : String)
  | incoming (message : SentMessage)
  | sendGroupMessage (groupId : String) (plaintext : Bytes) (replyToMessageId : Option String)
  | groupAck (peer : AuthenticatedPeer crypto) (acknowledgement : GroupAckPayload)
  | incomingGroup (message : GroupMessage)
  | leaveGroup (groupId : String)
  | flush (peerId : PeerId)
  | delete (messageId : String) (groupId : Option String)
  | cleanup
  | enqueue (recipientId : PeerId) (type : PacketType) (payload : Bytes) (messageId groupId : Option String)
  | removeFile (fileId : String) (recipientId : Option PeerId)
  | meet (peer : AuthenticatedPeer crypto)
  | learnKey (peerId : PeerId) (key : Bytes)
  | configure (surroundings : Surroundings)

section

variable {crypto : FileCrypto} (identity : Identity crypto) (writer : PacketWriter)

def outboxProgram (self : Nat) : OutboxJob crypto → OutboxProgram Unit
  | .sendMessage recipientId plaintext replyToMessageId =>
      sendMessage identity writer recipientId plaintext replyToMessageId
  | .receipt peer messageId => execute (.markDelivered messageId identity.peerId peer.peerId)
  | .blockedNotice peer messageId => execute (.markBlocked messageId identity.peerId peer.peerId)
  | .incoming message =>
      execute (.saveMessage { message with delivered := false, queued := false, failed := false, blocked := false })
  | .sendGroupMessage groupId plaintext replyToMessageId =>
      sendGroupMessage identity writer self groupId plaintext replyToMessageId
  | .groupAck peer acknowledgement => handleAck identity writer peer.toGroupPeer acknowledgement
  | .incomingGroup message => saveGroupMessage message
  | .leaveGroup groupId => leaveGroup identity writer groupId
  | .flush peerId => flushOutgoing self peerId
  | .delete messageId groupId => deleteMessageLocally messageId groupId
  | .cleanup => execute .cleanup
  | .enqueue recipientId type payload messageId groupId =>
      if type = .message ∨ type = .groupMessage then pure ()
      else execute (.enqueue recipientId type.value payload messageId groupId)
  | .removeFile fileId recipientId => execute (.removeFile fileId recipientId)
  | .meet peer => execute (.meet peer.toGroupPeer)
  | .learnKey peerId key => onlyIf (decide (crypto.sha256 key = peerId)) (execute (.learnKey peerId key))
  | .configure surroundings => execute (.configure surroundings)

end

namespace OutboxNode

/-- A process that opens its tables; `connect` settles what a crash left pending. -/
def opened (node : OutboxNode) (tables : OutboxTables) (now : Time) : OutboxNode :=
  let repaired := { tables with db := tables.db.failPendingDeliveries now }
  { node with tables := repaired, committed := repaired, holding := [], sending := [] }

/-- The first start. -/
def fresh : OutboxNode where
  tables := {}
  committed := {}
  rooms := ∅
  groupCapable := ∅
  peerCapabilities := ∅
  sent := []
  stored := []
  holding := []
  sending := []

end OutboxNode

/-- `restartedAt` is the clock of the next start. -/
def outboxService {crypto : FileCrypto} (identity : Identity crypto) (writer : PacketWriter) (restartedAt : Time) :
    Service OutboxNode OutboxFate OutboxPoint OutboxError (OutboxJob crypto) where
  program := fun job self => outboxProgram identity writer self job
  reboot := fun node => node.opened node.committed restartedAt

abbrev OutboxPool := Pool OutboxNode OutboxFate OutboxPoint OutboxError

abbrev OutboxEvent (crypto : FileCrypto) := PoolEvent OutboxFate (OutboxJob crypto)

def freshOutbox : OutboxPool := ⟨OutboxNode.fresh, []⟩

/-! ### A group of two, for runs on fixed inputs -/

def plainWriter : PacketWriter where
  dumps := fun _ => []
  encryptForRecipient := fun _ content _ => content
  renderMentionsPlain := id

def team : String := "0123456789abcdef0123456789abcdef"

def bobConnected : AuthenticatedPeer plainCrypto where
  peerId := "bob"
  capabilities := [capTextChat, capDeliveryReceipts, capGroupChat]
  signingPublicKey := some [98, 111, 98]
  encryptionPublicKey := some [1]
  certified := by
    rintro key ⟨⟩
    rfl

def bobInTeam : Surroundings where
  rooms := (∅ : Dict String (Option String)).set team (some "team")
  groupCapable := ∅
  groupMembers := (∅ : Table GroupMember fun row => (row.groupId, row.peerId)).insertOrIgnore
    { groupId := team, peerId := "bob", active := true, joinedAt := 1, lastSeen := 1, leftAt := none }
  blockedPeers := []

/-- Bob is connected, and what is new gets the id `m1`. -/
def calm : OutboxFate where
  now := 10
  newId := "m1"
  connected := some bobConnected.toGroupPeer
  sendFails := false
  raises := false
  withinRate := true

def broken : OutboxFate := { calm with sendFails := true }

def away : OutboxFate := { calm with connected := none }

def turns (task count : Nat) (fate : OutboxFate) : List (OutboxEvent plainCrypto) :=
  List.replicate count (.resume task fate)

def teamSet : List (OutboxEvent plainCrypto) := [.start (.configure bobInTeam)] ++ turns 0 2 calm

end MeshTalk.Outbox
