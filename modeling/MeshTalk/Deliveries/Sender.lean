import MeshTalk.Files.Receiver
import MeshTalk.Store.FileDeliveries

namespace MeshTalk.Deliveries

open MeshTalk.Library MeshTalk.Protocol MeshTalk.Store MeshTalk.Files

/-! # The sending half of `FileTransferManager`

As in the receiving half, each `await` and each statement sent to the database
is a suspension point, and `committed` is what a restart finds.  Packets are
kept with their type and their encoded payload; progress and other events of the
user interface are left out.
-/

def maxResendRequestsPerPeer : Nat := 64
def maxResendBytesPerPeer : Nat := maxFileBatchSize * maxFileSize
def maxResendRequests : Nat := 256
def maxResendBytes : Nat := 4 * 1024 ^ 3
def maxResendPeers : Nat := 256
def resendWindow : Time := 60
def awaitingAckTimeout : Time := 30

/-- What the sending half reads of a connection. -/
structure RecipientPeer extends FilePeer where
  encryptionPublicKey : Option Bytes
deriving DecidableEq, Repr

/-- Auxiliary: an operation has written a status of a delivery.  Until `settled`,
it was one that only a running operation moves on. -/
structure Window where
  task : Nat
  fileId : String
  recipientId : PeerId
  settled : Bool
deriving DecidableEq, Repr

inductive RecomputeStage where
  | changed
  | seen (states : List FileStatus)
  | written
deriving DecidableEq, Repr

/-- Auxiliary: how far an operation is with the aggregate of a file. -/
structure Recompute where
  task : Nat
  fileId : String
  stage : RecomputeStage
deriving DecidableEq, Repr

structure Sender where
  db : Database
  committed : Database
  /-- The `capabilities` column of the table of peers. -/
  capabilities : Dict PeerId (List String)
  /-- The connected peers of the peer manager. -/
  connections : Dict PeerId RecipientPeer
  /-- `settings.rooms` with their names, when the manager was given settings. -/
  rooms : Option (Dict String (Option String))
  files : Dict Path StoredFile
  filesBase : Path
  migrationInProgress : Bool
  packetLocks : Dict PeerId Nat
  flushLocks : Dict (String × PeerId) Nat
  awaitingAckSince : Dict (String × PeerId) Time
  resendUsage : Dict PeerId (Time × Nat × Nat)
  resendTotal : Time × Nat × Nat
  sent : List (PeerId × PacketType × Bytes)
  windows : List Window
  recomputes : List Recompute

/-- What the environment decides about a step; `order` is the order in which a
set of file ids is iterated. -/
structure SendFate where
  now : Time
  monotonic : Time
  uuid : String
  sendFails : Bool
  readFails : Bool
  order : List String
deriving DecidableEq, Repr

inductive SendError where
  | valueError (message : String)
  | typeError
  | osError
deriving DecidableEq, Repr

inductive SendStatement where
  | save (transfer : FileTransfer)
  | setDelivery (fileId : String) (recipientId : PeerId) (status : FileStatus)
  | setDirect (fileId : String) (recipientId : PeerId) (status : FileStatus)
  | setStatus (fileId : String) (direct : Option PeerId) (status : FileStatus)
  | queue (recipientId : PeerId) (packetType : PacketType) (payload : Bytes) (fileId : String) (groupId : Option String)
  | removeQueued (queueId : Nat)
  | removeFile (fileId : String) (recipientId : PeerId)
deriving DecidableEq, Repr

/-- The recipients of a direct transfer are only named for the auxiliary fields. -/
def SendStatement.apply (now : Time) : SendStatement → Database → Database
  | save transfer, db => db.saveFileTransfer transfer
  | setDelivery fileId recipientId status, db => db.setFileDelivery fileId recipientId status now
  | setDirect fileId _ status, db => db.setFileStatusAwaiting fileId status now
  | setStatus fileId _ status, db => db.setFileStatus fileId status
  | queue recipientId packetType payload fileId groupId, db =>
      db.addToOutqueue recipientId packetType.value payload (some fileId) groupId now
  | removeQueued queueId, db => db.removeFromOutqueue queueId
  | removeFile fileId recipientId, db => db.removeFileFromOutqueue fileId (some recipientId)

/-- The statuses that only a running operation moves on. -/
def FileStatus.unfinished (status : FileStatus) : Bool := status ∈ [FileStatus.pending, .transferring]

/-- What the rest of the node and its user decide. -/
structure Surroundings where
  friends : List String
  blockedPeers : List String
  groups : List String
  groupMembers : Table GroupMember fun row => (row.groupId, row.peerId)
  peers : Table PeerRecord PeerRecord.peerId
  capabilities : Dict PeerId (List String)
  connections : Dict PeerId RecipientPeer
  rooms : Option (Dict String (Option String))
  files : Dict Path StoredFile
  migrationInProgress : Bool

/-- Where a sending task, given by its number, is suspended. -/
inductive SendPoint where
  | lockPeer (task : Nat) (peerId : PeerId)
  | unlockPeer (task : Nat) (peerId : PeerId)
  | lockDelivery (task : Nat) (fileId : String) (recipientId : PeerId)
  | unlockDelivery (task : Nat) (fileId : String) (recipientId : PeerId)
  | query
  | snapshot
  | execute (task : Nat) (statement : SendStatement)
  | commit (task : Nat)
  | readDeliveries (task : Nat) (fileId : String)
  | writeAggregate (task : Nat) (fileId : String) (seen : List FileStatus)
  | checkCompleted (task : Nat) (transfer : FileTransfer) (recipientId : PeerId)
  | passOver (task : Nat) (transfer : FileTransfer) (recipientId : PeerId)
  | prepareOffer (transfer : FileTransfer) (recipientId : PeerId)
  | sealChunk (transfer : FileTransfer) (recipientId : PeerId) (index : Nat)
  | transmit (peer : RecipientPeer) (packetType : PacketType) (payload : Bytes)
  | awaiting (fileId : String) (recipientId : PeerId)
  | reserveResend (peerId : PeerId) (transfer : FileTransfer)
  | surroundings

abbrev Program := Task Sender SendFate SendPoint SendError

abbrev Action := Handler Sender SendError

namespace Sender

variable (sender : Sender)

def updateDb (update : Database → Database) : Sender := { sender with db := update sender.db }

/-- The books kept of a task's own status writes. -/
def noteWindow (task : Nat) (fileId : String) (recipientId : PeerId) (status : FileStatus) : Sender :=
  { sender with
    windows := sender.windows.filter (fun window =>
      ¬ (window.task = task ∧ window.fileId = fileId ∧ window.recipientId = recipientId)) ++
      [{ task, fileId, recipientId, settled := !FileStatus.unfinished status }] }

def noteRecompute (task : Nat) (fileId : String) (stage : RecomputeStage) : Sender :=
  { sender with
    recomputes := sender.recomputes.filter (fun recompute =>
      ¬ (recompute.task = task ∧ recompute.fileId = fileId)) ++ [{ task, fileId, stage }] }

def note (task : Nat) : SendStatement → Sender
  | .save transfer =>
      match transfer.group? with
      | some _ => sender.noteRecompute task transfer.fileId .changed
      | none => sender.noteWindow task transfer.fileId transfer.recipientId transfer.status
  | .setDelivery fileId recipientId status =>
      (sender.noteWindow task fileId recipientId status).noteRecompute task fileId .changed
  | .setDirect fileId recipientId status => sender.noteWindow task fileId recipientId status
  | .setStatus fileId (some recipientId) status => sender.noteWindow task fileId recipientId status
  | _ => sender

/-- A statement, and what the auxiliary fields keep of it. -/
def execute (task : Nat) (statement : SendStatement) (now : Time) : Sender :=
  (sender.updateDb (statement.apply now)).note task statement

def commit (task : Nat) : Sender :=
  { sender with
    committed := sender.db
    windows := sender.windows.filter fun window => ¬ (window.task = task ∧ window.settled = true)
    recomputes := sender.recomputes.filter fun recompute => ¬ (recompute.task = task ∧ recompute.stage = .written) }

/-- The operation need not write a status of its delivery any more. -/
def closeWindow (task : Nat) (fileId : String) (recipientId : PeerId) : Sender :=
  { sender with
    windows := sender.windows.filter fun window =>
      ¬ (window.task = task ∧ window.fileId = fileId ∧ window.recipientId = recipientId ∧ window.settled = false) }

/-- A process that starts finds its files and what was committed. -/
def reboot : Sender :=
  { sender with
    db := sender.committed
    connections := ∅
    migrationInProgress := false
    packetLocks := ∅
    flushLocks := ∅
    awaitingAckSince := ∅
    resendUsage := ∅
    resendTotal := (0, 0, 0)
    windows := []
    recomputes := [] }

def surround (surroundings : Surroundings) : Sender :=
  { sender with
    db := { sender.db with
      friends := surroundings.friends
      blockedPeers := surroundings.blockedPeers
      groups := surroundings.groups
      groupMembers := surroundings.groupMembers
      peers := surroundings.peers }
    capabilities := surroundings.capabilities
    connections := surroundings.connections
    rooms := surroundings.rooms
    files := surroundings.files
    migrationInProgress := surroundings.migrationInProgress }

/-- `_retryable`. -/
def retryable (fileId : String) (recipientId : PeerId) (status : FileStatus) (awaitingAckAt : Option Time)
    (fate : SendFate) : Bool :=
  if status ∈ [.failed, .blocked, .queued, .unavailable] then true
  else match sender.awaitingAckSince.get? (fileId, recipientId), awaitingAckAt with
    | some since, _ => status = .sent && decide (awaitingAckTimeout ≤ fate.monotonic - since)
    | none, some since => status = .sent && decide (awaitingAckTimeout ≤ fate.now - since)
    | none, none => status = .sent

end Sender

def query (read : Sender → α) : Program α := Task.perform .query fun _ => do
  let sender ← Handler.read
  pure (read sender)

def queryAt (read : SendFate → Sender → α) : Program α := Task.perform .query fun fate => do
  let sender ← Handler.read
  pure (read fate sender)

def refused (reason : String) : Program α := .failed (.valueError reason)

def logAndDrop (_ : SendError) : Program Unit := pure ()

def onlyIf (condition : Bool) (body : Program Unit) : Program Unit := if condition then body else pure ()

/-- A statement of the store and the commit its method ends with. -/
def store (task : Nat) (statement : SendStatement) : Program Unit := do
  Task.perform (.execute task statement) fun fate => Handler.change fun sender => sender.execute task statement fate.now
  Task.perform (.commit task) fun _ => Handler.change fun sender => sender.commit task

/-! ## Statuses -/

def readDeliveries (task : Nat) (fileId : String) : Program (List FileStatus) :=
  Task.perform (.readDeliveries task fileId) fun _ => do
    let sender ← Handler.read
    let states := sender.db.deliveryStates fileId
    Handler.change fun sender => sender.noteRecompute task fileId (.seen states)
    pure states

def writeAggregate (task : Nat) (fileId : String) (seen : List FileStatus) : Program Unit :=
  Task.perform (.writeAggregate task fileId seen) fun fate => Handler.change fun sender =>
    (sender.updateDb fun db => db.setFileAggregate fileId (aggregateStatus seen) fate.now).noteRecompute task fileId .written

def recomputeAggregate (task : Nat) (fileId : String) : Program Unit := do
  match ← query fun sender => sender.db.getFileTransfer fileId with
  | none => pure ()
  | some transfer =>
      if transfer.group? = none then pure ()
      else
        let states ← readDeliveries task fileId
        writeAggregate task fileId states
        Task.perform (.commit task) fun _ => Handler.change fun sender => sender.commit task

def forgetAwaiting (fileId : String) (recipientId : PeerId) : Program Unit :=
  Task.perform (.awaiting fileId recipientId) fun _ => Handler.change fun sender =>
    { sender with awaitingAckSince := sender.awaitingAckSince.erase (fileId, recipientId) }

def setDelivery (task : Nat) (transfer : FileTransfer) (recipientId : PeerId) (status : FileStatus) : Program Unit := do
  onlyIf (status ≠ .sent) (forgetAwaiting transfer.fileId recipientId)
  match transfer.group? with
  | some _ =>
      store task (.setDelivery transfer.fileId recipientId status)
      recomputeAggregate task transfer.fileId
  | none => store task (.setDirect transfer.fileId transfer.recipientId status)

/-- The status a handler reads of a delivery. -/
def statusOf (sender : Sender) (transfer : FileTransfer) (recipientId : PeerId) : Option FileStatus :=
  match transfer.group? with
  | some _ => (sender.db.getFileDelivery transfer.fileId recipientId).map FileDelivery.status
  | none => (sender.db.getFileTransfer transfer.fileId).map FileTransfer.status

/-- The recipient under which a delivery of the transfer is recorded. -/
def addressee (transfer : FileTransfer) (recipientId : PeerId) : PeerId :=
  match transfer.group? with
  | some _ => recipientId
  | none => transfer.recipientId

def checkCompleted (task : Nat) (transfer : FileTransfer) (recipientId : PeerId) : Program Bool :=
  Task.perform (.checkCompleted task transfer recipientId) fun _ => do
    let sender ← Handler.read
    let completed := decide (statusOf sender transfer recipientId = some .completed)
    Handler.change fun sender =>
      if completed then sender.closeWindow task transfer.fileId (addressee transfer recipientId) else sender
    pure completed

def markSentUnlessCompleted (task : Nat) (transfer : FileTransfer) (recipientId : PeerId) : Program Unit := do
  onlyIf transfer.group?.isSome do
    let _ ← query fun sender => sender.db.getFileTransfer transfer.fileId
  if ← checkCompleted task transfer recipientId then pure ()
  else
    Task.perform (.awaiting transfer.fileId recipientId) fun fate => Handler.change fun sender =>
      { sender with awaitingAckSince := sender.awaitingAckSince.set (transfer.fileId, recipientId) fate.monotonic }
    setDelivery task transfer recipientId .sent

/-! ## Who may be sent to -/

section

variable {crypto : FileCrypto} (identity : Identity crypto)

def supportsV2 (recipientId : PeerId) : Program Bool := do
  match ← query fun sender => sender.connections.get? recipientId with
  | some peer => pure (peer.supports capFileTransferV2)
  | none => query fun sender => ((sender.capabilities.get? recipientId).getD []).contains capFileTransferV2

def groupRecipientEligible (groupId : String) (recipientId : PeerId) : Program Bool := do
  if ← query fun sender => (sender.db.getGroupMember groupId recipientId).any GroupMember.active then
    if ← query fun sender => sender.db.isPeerBlocked recipientId then pure false
    else supportsV2 recipientId
  else pure false

/-- The group is a room of the settings, or the store knows it. -/
def knowsGroup (groupId : String) : Program Bool := do
  if ← query fun sender => sender.rooms.any fun rooms => rooms.contains groupId then pure true
  else query fun sender => decide (groupId ∈ sender.db.groups)

def activeGroupSender (groupId : String) : Program Bool := do
  let known ← knowsGroup groupId
  let active ← query fun sender => (sender.db.getGroupMember groupId identity.peerId).any GroupMember.active
  pure (known && active)

def mayDeliver (transfer : FileTransfer) (recipientId : PeerId) : Program Bool :=
  match transfer.group? with
  | some groupId => do
      if ← activeGroupSender identity groupId then groupRecipientEligible groupId recipientId else pure false
  | none => do
      if ← query fun sender => sender.db.isPeerBlocked recipientId then pure false
      else query fun sender => sender.db.isFriend recipientId

def stillAuthorized (transfer : FileTransfer) (recipientId : PeerId) : Program Bool := do
  if ← query fun sender => sender.db.isPeerBlocked recipientId then pure false
  else match transfer.group? with
    | some groupId => do
        if ← activeGroupSender identity groupId then groupRecipientEligible groupId recipientId else pure false
    | none => query fun sender => sender.db.isFriend recipientId

/-- `_authorized_inbound` of a group, for the acknowledgements of a member. -/
def authorizedInbound (peer : RecipientPeer) (groupId : String) : Program Bool := do
  if ← query fun sender => sender.db.isPeerBlocked peer.peerId then pure false
  else
    let member ← query fun sender => sender.db.getGroupMember groupId peer.peerId
    let room ← query fun sender => match sender.rooms with
      | some rooms => ((rooms.get? groupId).bind id).isSome
      | none => decide (groupId ∈ sender.db.groups)
    if room then
      let localMember ← query fun sender => sender.db.getGroupMember groupId identity.peerId
      pure (member.any GroupMember.active && localMember.any GroupMember.active)
    else pure false

/-! ## Packets -/

variable (dumps : Json → Bytes) (encryptForRecipient : Bytes → Bytes → Json → Bytes)

def withSignature : Json → Bytes → Json
  | .object members, signature => .object (members ++ [("signature", .text (Hex.toText signature))])
  | other, _ => other

/-- `_offer`; the signature covers everything else. -/
def offerFor (transfer : FileTransfer) (recipientId : PeerId) : FileOfferV2Payload :=
  let offer : FileOfferV2Payload := {
    fileId := transfer.fileId
    filename := transfer.filename
    fileSize := transfer.fileSize
    chunkSize := transfer.chunkSize
    totalChunks := transfer.totalChunks
    fileSha256 := transfer.fileSha256
    senderId := identity.peerId
    recipientId
    createdAt := transfer.createdAt
    signature := []
    groupId := transfer.groupId
    caption := transfer.caption
    batchId := transfer.batchId
    batchIndex := transfer.batchIndex
    batchCount := transfer.batchCount }
  { offer with signature := identity.sign (offer.signedBytes crypto) }

/-- The offer as it is sent; one that is not valid raises. -/
def prepareOffer (transfer : FileTransfer) (recipientId : PeerId) : Program Bytes :=
  Task.perform (.prepareOffer transfer recipientId) fun _ => do
    let offer := offerFor identity transfer recipientId
    Handler.refuse (offer.valid = false) (.valueError "Invalid file offer v2 payload")
    pure (dumps (withSignature offer.unsigned offer.signature))

/-- `_chunk`, the bytes of the index encrypted for the recipient and signed. -/
def chunkFor (transfer : FileTransfer) (recipientId : PeerId) (index : Nat) (plaintext key : Bytes) : FileChunkV2Payload :=
  let chunk : FileChunkV2Payload := {
    fileId := transfer.fileId
    chunkIndex := index
    totalChunks := transfer.totalChunks
    senderId := identity.peerId
    recipientId
    encryptedContent := []
    signature := []
    groupId := transfer.groupId }
  let encrypted := { chunk with encryptedContent := encryptForRecipient key plaintext chunk.associatedData }
  { encrypted with signature := identity.sign (encrypted.signedBytes crypto) }

def chunkDocument (chunk : FileChunkV2Payload) : Json :=
  .object <|
    [("file_id", .text chunk.fileId), ("chunk_index", .int chunk.chunkIndex), ("total_chunks", .int chunk.totalChunks),
     ("sender_id", .text chunk.senderId), ("recipient_id", .text chunk.recipientId),
     ("encrypted_content", .text (Hex.toText chunk.encryptedContent)), ("signature", .text (Hex.toText chunk.signature))] ++
    (chunk.groupId.map fun id => ("group_id", Json.text id)).toList

/-- Read a chunk from the snapshot and seal it. -/
def sealChunk (transfer : FileTransfer) (recipientId : PeerId) (content key : Bytes) (index : Nat) : Program Bytes :=
  Task.perform (.sealChunk transfer recipientId index) fun fate => do
    Handler.refuse (fate.readFails = true) .osError
    let plaintext := (content.drop (index * transfer.chunkSize)).take transfer.chunkSize
    let chunk := chunkFor identity encryptForRecipient transfer recipientId index plaintext key
    Handler.refuse (chunk.valid = false) (.valueError "Invalid file chunk v2 payload")
    pure (dumps (chunkDocument chunk))

/-- Whether a packet went out. -/
def attempt (peer : RecipientPeer) (packetType : PacketType) (payload : Bytes) : Program Bool :=
  Task.perform (.transmit peer packetType payload) fun fate => do
    Handler.change fun sender =>
      if fate.sendFails then sender else { sender with sent := sender.sent ++ [(peer.peerId, packetType, payload)] }
    pure (!fate.sendFails)

/-- `open(path, "rb")`: a snapshot does not change while it is open. -/
def openSource (transfer : FileTransfer) : Program Bytes :=
  Task.perform .query fun fate => do
    let sender ← Handler.read
    Handler.refuse (fate.readFails = true) .osError
    let file ← Handler.orRaise (sender.files.get? (transfer.filePath.getD [])) .osError
    pure file.content

/-- The chunk indices of a list of ranges, in the order the loops visit them. -/
def rangeIndices (ranges : List (Nat × Nat)) : List Nat :=
  ranges.flatMap fun range => List.range' range.1 (range.2 + 1 - range.1)

def allChunks (transfer : FileTransfer) : List Nat := rangeIndices [(0, transfer.totalChunks - 1)]

def fail (task : Nat) (transfer : FileTransfer) (recipientId : PeerId) : Program Bool := do
  setDelivery task transfer recipientId .failed
  pure false

/-- The `try` block of `_queue_ranges`. -/
def queueChunks (task : Nat) (transfer : FileTransfer) (recipientId : PeerId) (key : Bytes) (indices : List Nat) :
    Program Bool := do
  let content ← openSource transfer
  Task.forEach indices fun index => do
    let payload ← sealChunk identity dumps encryptForRecipient transfer recipientId content key index
    store task (.queue recipientId .fileChunkV2 payload transfer.fileId transfer.groupId)
  pure true

def queueRanges (task : Nat) (transfer : FileTransfer) (recipientId : PeerId) (key : Bytes) (indices : List Nat) :
    Program Bool :=
  (queueChunks identity dumps encryptForRecipient task transfer recipientId key indices).recover fun _ =>
    fail task transfer recipientId

/-- Keep the chunk that could not be sent and the ones after it for later. -/
def queueRemaining (task : Nat) (transfer : FileTransfer) (recipientId : PeerId) (key payload : Bytes) (rest : List Nat) :
    Program Bool := do
  store task (.queue recipientId .fileChunkV2 payload transfer.fileId transfer.groupId)
  if ← queueRanges identity dumps encryptForRecipient task transfer recipientId key rest then
    setDelivery task transfer recipientId .queued
    pure false
  else pure false

/-- The loops of `_stream_ranges`, from a count of chunks sent; whether all went
out. -/
def streamFrom (task : Nat) (peer : RecipientPeer) (transfer : FileTransfer) (recipientId : PeerId) (content key : Bytes)
    (sent : Nat) : List Nat → Program Bool
  | [] => pure true
  | index :: rest => do
      let payload ← sealChunk identity dumps encryptForRecipient transfer recipientId content key index
      if ← attempt peer .fileChunkV2 payload then
        if (sent + 1) % 32 ≠ 0 then streamFrom task peer transfer recipientId content key (sent + 1) rest
        else if ← stillAuthorized identity transfer recipientId then
          streamFrom task peer transfer recipientId content key (sent + 1) rest
        else
          setDelivery task transfer recipientId .unavailable
          pure false
      else queueRemaining identity dumps encryptForRecipient task transfer recipientId key payload rest

/-- The `try` block of `_stream_ranges`. -/
def streamOpened (task : Nat) (peer : RecipientPeer) (transfer : FileTransfer) (recipientId : PeerId) (key : Bytes)
    (indices : List Nat) : Program Bool := do
  let content ← openSource transfer
  if ← streamFrom identity dumps encryptForRecipient task peer transfer recipientId content key 0 indices then
    markSentUnlessCompleted task transfer recipientId
    pure true
  else pure false

def hasSource (sender : Sender) (transfer : FileTransfer) : Bool := transfer.filePath.any sender.files.contains

def streamRanges (task : Nat) (peer : RecipientPeer) (transfer : FileTransfer) (recipientId : PeerId)
    (indices : List Nat) : Program Bool := do
  let present ← query fun sender => hasSource sender transfer
  match peer.encryptionPublicKey.filter (· ≠ []) with
  | some key =>
      if present then
        (streamOpened identity dumps encryptForRecipient task peer transfer recipientId key indices).recover fun _ =>
          fail task transfer recipientId
      else fail task transfer recipientId
  | none => fail task transfer recipientId

end

end MeshTalk.Deliveries
