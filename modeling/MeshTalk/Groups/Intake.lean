import MeshTalk.Groups.Relay
import MeshTalk.Protocol.EndpointCards

namespace MeshTalk.Groups

open MeshTalk.Library MeshTalk.Protocol MeshTalk.Store

/-! # What a member takes in

Group messages, leaves and endpoint cards, and the refresh of the roster when a
peer connects.  Handlers of different packets run next to each other.
-/

def groupInboundBurst : Nat := 30
def groupInboundWindowSeconds : Time := 60
def groupRelayInboundBurst : Nat := 120
def groupPeerBurst : Nat := 240
def maxInboundHits : Nat := 4096
def leaveMaxAge : Time := 86400
def maxTrackedCandidates : Nat := 512
def candidateTrackingAge : Time := 600

/-- A leave or a card of a member, once it has been applied. -/
inductive MembershipEvent where
  | leave (leave : GroupLeavePayload) (signingKey : Bytes) (checkedAt : Time)
  | card (groupId : String) (card : EndpointCard) (checkedAt : Time)
deriving DecidableEq, Repr

namespace MembershipEvent

def member : MembershipEvent → String × PeerId
  | leave payload _ _ => (payload.groupId, payload.peerId)
  | card groupId endpointCard _ => (groupId, endpointCard.peerId)

def createdAt : MembershipEvent → Time
  | leave payload _ _ => payload.createdAt.value
  | card _ endpointCard _ => endpointCard.createdAt.value

def joins : MembershipEvent → Bool
  | leave _ _ _ => false
  | card _ _ _ => true

end MembershipEvent

structure MemberNode where
  db : Database
  /-- `settings.rooms`, each with its group name. -/
  rooms : Dict String (Option String)
  inboundHits : Dict (String × String) (List Time)
  seenCards : Dict (String × PeerId × String) Time
  candidateSeen : Dict PeerId Time
  /-- The acknowledgements sent, with the peer each went to. -/
  acknowledged : List (PeerId × String)
  /-- Auxiliary, read by no action: the messages inserted, the messages whose
  handler has ended, and the leaves and cards applied. -/
  stored : List GroupMessage
  ended : List (GroupPeer × GroupMessagePayload)
  applied : List MembershipEvent

/-- What the environment decides about a step. -/
structure MemberFate where
  now : Time
  monotonic : Time
  newId : String
  sendFails : Bool
deriving DecidableEq, Repr

inductive ReceiveStage where
  | peerRate | relayBlocked | room | senderActive | relayActive | senderBlocked | rate | senderKey | lookUp | save
  | winner | markSeen | acknowledge | ended
deriving DecidableEq, Repr

inductive MemberPoint where
  | query
  | receive (stage : ReceiveStage) (peer : GroupPeer) (message : GroupMessagePayload)
  | markLeft (event : MembershipEvent)
  | markSeen (messageId : String)
  | systemEvent (groupId : String) (peerId : PeerId)
  | acceptCard (roomId : String) (card : EndpointCard)
  | join (event : MembershipEvent)
  | trimMembers
  | signingKey (peerId : PeerId)
  | refresh (groupId : String) (peerId : PeerId)
  | removeGroup (groupId : String)
  | change

/-- A `ValueError` with its text, or a send that failed. -/
inductive MemberError where
  | refused (reason : String)
  | sendFailed
deriving DecidableEq, Repr

abbrev MemberProgram := Task MemberNode MemberFate MemberPoint MemberError

abbrev MemberAction := Handler MemberNode MemberError

namespace MemberNode

variable (node : MemberNode)

/-- The room exists and has a group name. -/
def namesRoom (groupId : String) : Bool := (node.rooms.get? groupId).any Option.isSome

def memberActive (groupId : String) (peerId : PeerId) : Bool := node.db.isActiveMember groupId peerId

def signingKeyOf (peerId : PeerId) : Option Bytes := (node.db.peers.find? peerId).bind PeerRecord.signingPublicKey

end MemberNode

def refused (reason : String) : MemberProgram α := .failed (.refused reason)

def memberQuery (read : MemberNode → α) : MemberProgram α := Task.perform .query fun _ => do
  let node ← Handler.read
  pure (read node)

/-! ## Group messages -/

/-- `_check_rate` of one bucket. -/
def checkRate (bucket key : String) (burst : Nat) (window now : Time) : MemberAction Bool := do
  let node ← Handler.read
  let hits := ((node.inboundHits.get? (bucket, key)).getD []).filter fun hit => decide (now - hit < window)
  if burst ≤ hits.length then do
    Handler.change fun node => { node with inboundHits := node.inboundHits.set (bucket, key) hits }
    pure false
  else do
    Handler.change fun node =>
      { node with
        inboundHits := dropOldest (node.inboundHits.set (bucket, key) (hits ++ [now])) maxInboundHits }
    pure true

def sameMessage (message : GroupMessagePayload) (row : GroupMessage) : Bool :=
  row.groupId = message.groupId && row.senderId = message.senderId && row.createdAt = message.createdAt.value &&
    row.replyToMessageId = message.replyToMessageId

/-- The row of an accepted message; its `created_at` goes to a `REAL` column. -/
def receivedRow (message : GroupMessagePayload) (content : String) (now : Time) : GroupMessage where
  messageId := message.messageId
  groupId := message.groupId
  senderId := message.senderId
  content := some content
  createdAt := message.createdAt.value
  receivedAt := some now
  kind := .message
  replyToMessageId := message.replyToMessageId
  originSignature := if message.originSignature = [] then none else some message.originSignature
  rowid := 0

section

variable {crypto : FileCrypto} (identity : Identity crypto)

def receive (stage : ReceiveStage) (peer : GroupPeer) (message : GroupMessagePayload)
    (action : MemberFate → MemberAction α) : MemberProgram α :=
  Task.perform (.receive stage peer message) action

def receiveRead (stage : ReceiveStage) (peer : GroupPeer) (message : GroupMessagePayload) (read : MemberNode → α) :
    MemberProgram α :=
  receive stage peer message fun _ => do
    let node ← Handler.read
    pure (read node)

/-- The relay of a relayed message is a member, too. -/
def relayAdmitted (peer : GroupPeer) (message : GroupMessagePayload) : MemberProgram Bool :=
  if message.senderId ≠ peer.peerId then
    receiveRead .relayActive peer message fun node => node.memberActive message.groupId peer.peerId
  else pure true

def withinRate (peer : GroupPeer) (message : GroupMessagePayload) : MemberProgram Bool :=
  receive .rate peer message fun fate =>
    if message.senderId ≠ peer.peerId then
      checkRate "relayed" message.senderId groupRelayInboundBurst groupInboundWindowSeconds fate.now
    else checkRate "direct" message.senderId groupInboundBurst groupInboundWindowSeconds fate.now

def senderKey (peer : GroupPeer) (message : GroupMessagePayload) : MemberProgram (Option Bytes) :=
  if message.senderId ≠ peer.peerId then
    receiveRead .senderKey peer message fun node => node.signingKeyOf message.senderId
  else pure peer.signingPublicKey

def acknowledge (peer : GroupPeer) (message : GroupMessagePayload) : MemberProgram Unit :=
  receive .acknowledge peer message fun fate => do
    Handler.refuse (fate.sendFails = true) .sendFailed
    Handler.change fun node => { node with acknowledged := node.acknowledged ++ [(peer.peerId, message.messageId)] }

/-- `save_group_message`; whether the row is new. -/
def saveMessage (message : GroupMessagePayload) (content : String) (fate : MemberFate) : MemberAction Bool := do
  let node ← Handler.read
  let row := receivedRow message content fate.now
  let (db, inserted) := node.db.saveGroupMessage row
  Handler.change fun node => { node with db, stored := if inserted then node.stored ++ [row] else node.stored }
  pure inserted

def markSeen (messageId : String) (now : Time) : MemberAction Unit :=
  Handler.change fun node => { node with db := node.db.markMessageSeen messageId now }

/-- The end of `_handle_message`, with the content decrypted and verified. -/
def storeMessage (peer : GroupPeer) (message : GroupMessagePayload) (content : String) : MemberProgram Unit := do
  match ← receiveRead .lookUp peer message fun node => node.db.groupMessages.find? message.messageId with
  | some existing => if sameMessage message existing then acknowledge peer message else pure ()
  | none => do
      if ← receive .save peer message fun fate => saveMessage message content fate then
        receive .markSeen peer message fun fate => markSeen message.messageId fate.now
        acknowledge peer message
      else do
        match ← receiveRead .winner peer message fun node => node.db.groupMessages.find? message.messageId with
        | none => pure ()
        | some winner =>
            if sameMessage message winner then do
              receive .markSeen peer message fun fate => markSeen message.messageId fate.now
              acknowledge peer message
            else pure ()

/-- What the origin signature is checked against. -/
def originBytes (crypto : FileCrypto) (message : GroupMessagePayload) (plaintext : Bytes) : Bytes :=
  crypto.canonical (groupOrigin message.messageId message.groupId message.senderId message.createdAt
    message.replyToMessageId (crypto.sha256 plaintext))

/-- The checks from the size of the plaintext on. -/
def verifyOrigin (crypto : FileCrypto) (peer : GroupPeer) (message : GroupMessagePayload) (plaintext : Bytes) (content : String) :
    MemberProgram Unit := do
  if maxGroupMessageContentSize < plaintext.length then refused "Group message exceeds 30 KiB limit"
  else
    match ← senderKey peer message with
    | none => refused "Unknown original sender signing key"
    | some key =>
        if message.originSignature.length = 64 then
          if crypto.verify key message.originSignature (originBytes crypto message plaintext) then
            storeMessage peer message content
          else refused "Invalid group message origin signature"
        else if message.senderId ≠ peer.peerId then refused "Relayed group message missing origin signature"
        else storeMessage peer message content

/-- The checks from the authentication of the transport peer on. -/
def openMessage (peer : GroupPeer) (message : GroupMessagePayload) : MemberProgram Unit :=
  match peer.signingPublicKey with
  | none => refused "Missing authenticated signing key"
  | some key =>
      if crypto.verify key message.signature (message.signedBytes crypto) then
        match identity.decryptAsRecipient message.encryptedContent message.associatedData with
        | none => refused "Invalid encrypted group message"
        | some plaintext =>
            match decodeUtf8 plaintext with
            | none => refused "Invalid encrypted group message"
            | some content => verifyOrigin crypto peer message plaintext content
      else refused "Invalid group message signature"

/-- The checks of the members and the limits. -/
def admitMessage (peer : GroupPeer) (message : GroupMessagePayload) : MemberProgram Unit := do
  let named ← receiveRead .room peer message fun node => node.namesRoom message.groupId
  let active ← receiveRead .senderActive peer message fun node => node.memberActive message.groupId message.senderId
  if (named && active) = false then refused "Sender is not an active group member"
  else if ← relayAdmitted peer message then
    if ← receiveRead .senderBlocked peer message fun node => node.db.isPeerBlocked message.senderId then pure ()
    else if ← withinRate peer message then openMessage identity peer message
    else pure ()
  else refused "Relay is not an active group member"

/-- `_handle_message` of a decoded packet. -/
def handleMessage (peer : GroupPeer) (message : GroupMessagePayload) : MemberProgram Unit := do
  if message.valid = false then refused "Invalid group message payload"
  else if peer.supports capGroupChat = false then refused "Peer did not negotiate group chat"
  else if (message.replyToMessageId.getD "" ≠ "" && !peer.supports capMessageReplies) = true then
    refused "Peer sent a group reply without negotiating support"
  else if ← receive .peerRate peer message fun fate =>
      checkRate "peer" peer.peerId groupPeerBurst groupInboundWindowSeconds fate.now then
    if ← receiveRead .relayBlocked peer message fun node => node.db.isPeerBlocked peer.peerId then pure ()
    else if message.recipientId ≠ identity.peerId ∨ message.senderId = identity.peerId then
      refused "Group message routing mismatch"
    else admitMessage identity peer message
  else pure ()

/-! ## Leaves -/

/-- `_handle_leave` of a decoded packet. -/
def handleLeave (crypto : FileCrypto) (peer : GroupPeer) (leave : GroupLeavePayload) : MemberProgram Unit := do
  if leave.valid = false then refused "Invalid group leave payload"
  else
    match if leave.peerId = peer.peerId then peer.signingPublicKey else none with
    | none => refused "Group leave identity mismatch"
    | some key => do
        let (active, now) ← Task.perform .query fun fate => do
          let node ← Handler.read
          pure (node.memberActive leave.groupId peer.peerId, fate.now)
        if active = false ∨ leaveMaxAge < clockDistance now leave.createdAt.value then pure ()
        else if ← memberQuery fun node => node.db.isMessageSeen leave.eventId then pure ()
        else if crypto.verify key leave.signature (crypto.canonical leave.unsigned) then do
          Task.perform (.markSeen leave.eventId) fun fate => markSeen leave.eventId fate.now
          Task.perform (.markLeft (.leave leave key now)) fun fate => Handler.change fun node =>
            { node with
              db := node.db.markGroupMemberLeft leave.groupId leave.peerId fate.now
              applied := node.applied ++ [.leave leave key now] }
          Task.perform (.systemEvent leave.groupId leave.peerId) fun fate => Handler.change fun node =>
            { node with
              db := (node.db.saveGroupMessage
                { messageId := fate.newId, groupId := leave.groupId, senderId := leave.peerId
                  content := some (leave.peerId ++ " left the group"), createdAt := fate.now
                  receivedAt := some fate.now, kind := .leave, replyToMessageId := none, originSignature := none
                  rowid := 0 }).1 }
        else refused "Invalid group leave signature"

/-! ## Endpoint cards -/

/-- `_handle_card` up to its callback: whether the card is of a member of a named room. -/
def acceptCard (publicAddress : String → Bool) (roomId : String) (card : EndpointCard) (fate : MemberFate) :
    MemberAction Bool := do
  let node ← Handler.read
  if node.rooms.get? roomId = none then pure false
  else match card.refusal crypto fate.now with
  | some reason => Handler.raise (.refused reason)
  | none =>
      let replayKey := (roomId, card.peerId, card.nonce)
      if card.peerId = identity.peerId ∨ (node.seenCards.get? replayKey).isSome then pure false
      else do
        Handler.change fun node =>
          { node with
            seenCards := (node.seenCards.set replayKey fate.monotonic).filter fun _ seenAt =>
              decide (fate.monotonic - seenAt < cardMaxAge) }
        Handler.refuse (card.offered.any (fun
          | .direct host port => !publicAddress host || decide (port < 1 ∨ 65535 < port)
          | .derp => false) = true) (.refused "Endpoint card is not a public address")
        let tracked := node.candidateSeen.filter fun _ seenAt =>
          decide (fate.monotonic - seenAt < candidateTrackingAge)
        Handler.change fun node => { node with candidateSeen := tracked }
        Handler.refuse (tracked.get? card.peerId = none ∧ maxTrackedCandidates ≤ tracked.size)
          (.refused "Too many room candidates")
        Handler.change fun node => { node with candidateSeen := tracked.set card.peerId fate.monotonic }
        pure (node.namesRoom roomId)

/-- `upsert_group_member` around its insert: whether the member is active then. -/
def upsertMember (groupId : String) (peerId : PeerId) (insert : MemberProgram Unit) : MemberProgram Unit := do
  insert
  Task.perform .trimMembers fun _ => Handler.change fun node => { node with db := node.db.trimInactiveMembers }
  if ← memberQuery fun node => node.memberActive groupId peerId then pure ()
  else refused "Group roster identity limit reached"

/-- The insert on behalf of a card. -/
def joinMember (event : MembershipEvent) : MemberProgram Unit :=
  Task.perform (.join event) fun fate => Handler.change fun node =>
    { node with
      db := node.db.insertGroupMember event.member.1 event.member.2 true fate.now
      applied := if node.db.rosterAdmits event.member.1 event.member.2 true then node.applied ++ [event]
        else node.applied }

def handleCard (publicAddress : String → Bool) (roomId : String) (card : EndpointCard) : MemberProgram Unit := do
  let (member, now) ← Task.perform (.acceptCard roomId card) fun fate => do
    let member ← acceptCard identity publicAddress roomId card fate
    pure (member, fate.now)
  if member then do
    let joined ← (do
      upsertMember roomId card.peerId (joinMember (.card roomId card now))
      pure true).recover fun _ => pure false
    if joined then do
      let known ← memberQuery fun node => node.signingKeyOf card.peerId
      if known = some card.signingPublicKey then pure ()
      else Task.perform (.signingKey card.peerId) fun _ => Handler.change fun node =>
        { node with db := node.db.insertSigningKey card.peerId card.signingPublicKey }
    else pure ()
  else pure ()

/-! ## A peer connects -/

def refreshMember (groupId : String) (peerId : PeerId) : MemberProgram Unit := do
  if ← memberQuery fun node => node.memberActive groupId peerId then
    upsertMember groupId peerId (Task.perform (.refresh groupId peerId) fun fate => Handler.change fun node =>
      { node with db := node.db.insertGroupMember groupId peerId true fate.now })
  else pure ()

/-- `peer_connected` up to its relay sweep. -/
def peerConnected (peerId : PeerId) : MemberProgram Unit := do
  let groups ← memberQuery fun node => node.db.groups
  Task.forEach groups fun groupId => refreshMember groupId peerId

/-! ## The service -/

inductive MemberRequest where
  | message (peer : GroupPeer) (message : GroupMessagePayload)
  | leave (peer : GroupPeer) (leave : GroupLeavePayload)
  | card (roomId : String) (card : EndpointCard)
  | connected (peerId : PeerId)
  | removeGroup (groupId : String)
  | settings (rooms : Dict String (Option String)) (blockedPeers groups : List String)

def memberProgram (publicAddress : String → Bool) : MemberRequest → MemberProgram Unit
  | .message peer message => (handleMessage identity peer message).ensuring
      (receive .ended peer message fun _ => Handler.change fun node => { node with ended := node.ended ++ [(peer, message)] })
  | .leave peer leave => handleLeave crypto peer leave
  | .card roomId card => handleCard identity publicAddress roomId card
  | .connected peerId => peerConnected peerId
  | .removeGroup groupId => Task.perform (.removeGroup groupId) fun _ => Handler.change fun node =>
      { node with
        db := node.db.removeGroup groupId
        applied := node.applied.filter fun event => event.member.1 ≠ groupId }
  | .settings rooms blockedPeers groups => Task.perform .change fun _ => Handler.change fun node =>
      { node with rooms, db := { node.db with blockedPeers, groups } }

def memberService (publicAddress : String → Bool) :
    Service MemberNode MemberFate MemberPoint MemberError MemberRequest where
  program := fun request _ => memberProgram identity publicAddress request
  reboot := fun node => { node with inboundHits := ∅, seenCards := ∅, candidateSeen := ∅ }

end

end MeshTalk.Groups
