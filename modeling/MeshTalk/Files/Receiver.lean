import MeshTalk.Files.Paths
import MeshTalk.Library.Task
import MeshTalk.Store.FileTables

namespace MeshTalk.Files

open MeshTalk.Library MeshTalk.Protocol MeshTalk.Store

/-! # The receiving half of `FileTransferManager`

Each `await` of the source is a suspension point, and so is every statement sent
to the database connection, since another task's statement may run between two
of them.  Statements act on `db`; `committed` is what a restart finds.  The
progress commit that the source schedules for later is a request of its own,
which may run at any time.  The point a task is suspended at names the action it
takes next with everything the action depends on.
-/

def maxEarlyChunks : Nat := 64
def maxEarlyChunksPerFile : Nat := 8
def earlyChunkTtl : Time := 30
def fileProgressCommitChunks : Nat := 32
def maxInboundFiles : Nat := 128
def maxInboundFilesPerPeer : Nat := 64
def maxInboundBytes : Nat := 4 * 1024 ^ 3
def maxInboundBytesPerPeer : Nat := 2 * 1024 ^ 3
def fileFreeSpaceReserve : Nat := 64 * 1024 ^ 2
def inboundIdleTtl : Time := 24 * 60 * 60

/-- What the file manager reads of a connection. -/
structure FilePeer where
  peerId : PeerId
  capabilities : List String
  signingPublicKey : Option Bytes
deriving DecidableEq, Repr

def FilePeer.supports (peer : FilePeer) (capability : String) : Bool := capability ∈ peer.capabilities

/-- One call of `_send_ack`: what it was asked to send and the document it
produced, or `none` where building the document raised. -/
structure AckRecord where
  peer : FilePeer
  fileId : String
  status : AckStatus
  ranges : Option (List (Nat × Nat))
  document : Option Json

structure Receiver where
  db : Database
  committed : Database
  /-- `settings.rooms` with their names, when the manager was given settings. -/
  rooms : Option (Dict String (Option String))
  files : Dict Path StoredFile
  filesBase : Path
  /-- The task that holds the packet lock of a peer. -/
  packetLocks : Dict PeerId Nat
  inboundLock : Option Nat
  earlyChunks : Dict String (Time × List (FilePeer × FileChunkV2Payload))
  integrityRetries : List String
  migrationInProgress : Bool
  acks : List AckRecord
  sent : List (PeerId × Json)
  /-- Auxiliary, read by no action: the task that is accepting an offer of a file,
  from its look-up of the seen ids until it has recorded the id. -/
  accepting : Dict String Nat

/-- What the environment decides about a step. -/
structure Fate where
  now : Time
  monotonic : Time
  freeBytes : Option Nat
  disk : DiskFault
  sendFails : Bool
deriving DecidableEq, Repr

inductive FileError where
  | valueError (message : String)
  | osError
  | sendError
deriving DecidableEq, Repr

/-- The statements the receiving half sends to the database. -/
inductive FileStatement where
  | save (transfer : FileTransfer)
  | setStatus (fileId : String) (status : FileStatus)
  | setCompleted (fileId : String)
  | abandon (fileId : String)
  | setReceivedChunks (fileId : String) (count : Nat)
  | insertReceivedChunk (fileId : String) (chunkIndex : Nat)
  | deleteReceivedChunks (fileId : String)
  | removeFromQueue (fileId : String)
  | markSeen (fileId : String)
  | queueAck (recipientId : PeerId) (fileId : String) (payload : Bytes)

def FileStatement.apply (now : Time) : FileStatement → Database → Database
  | save transfer, db => db.saveFileTransfer transfer
  | setStatus fileId status, db => db.setFileStatus fileId status
  | setCompleted fileId, db => db.setFileCompleted fileId now
  | abandon fileId, db => db.abandonFileTransfer fileId
  | setReceivedChunks fileId count, db => db.setReceivedChunks fileId count
  | insertReceivedChunk fileId chunkIndex, db => db.insertReceivedChunk fileId chunkIndex
  | deleteReceivedChunks fileId, db => db.deleteReceivedChunks fileId
  | removeFromQueue fileId, db => db.removeFileFromOutqueue fileId none
  | markSeen fileId, db => db.markMessageSeen fileId now
  | queueAck recipientId fileId payload, db =>
      db.addToOutqueue recipientId PacketType.fileAckV2.value payload (some fileId) none now

/-- Who is authorized, and whether a storage switch is under way: what the rest
of the node decides for the file manager. -/
structure Configuration where
  friends : List String
  blockedPeers : List String
  groups : List String
  groupMembers : Table GroupMember fun row => (row.groupId, row.peerId)
  rooms : Option (Dict String (Option String))
  migrationInProgress : Bool

/-- Where a file task is suspended. -/
inductive FilePoint where
  | lockPeer (peerId : PeerId) (holder : Nat)
  | unlockPeer (peerId : PeerId)
  | lockInbound (holder : Nat)
  | unlockInbound
  | query
  | execute (statement : FileStatement)
  | commit
  | checkPacket
  | keepEarly (peer : FilePeer) (chunk : FileChunkV2Payload)
  | dropEarly (fileId : String)
  | forgetRetry (fileId : String)
  | forgetReservation (fileId : String)
  | offerMigration (offer : FileOfferV2Payload)
  | seenCheck (offer : FileOfferV2Payload) (holder : Nat)
  | endAccepting (fileId : String)
  | admission (offer : FileOfferV2Payload) (rows : List FileTransfer)
  | createInbound (offer : FileOfferV2Payload)
  | reclaim (transfer : FileTransfer)
  | checkChunk (transfer : FileTransfer) (chunk : FileChunkV2Payload)
  | writeChunk (transfer : FileTransfer) (chunk : FileChunkV2Payload)
  | verify (transfer : FileTransfer)
  | recreate (transfer : FileTransfer)
  | resume (transfer : FileTransfer)
  | sendAck (peer : FilePeer) (fileId : String) (status : AckStatus) (ranges : Option (List (Nat × Nat)))
  | transmit (peer : FilePeer) (document : Json)
  | configure (configuration : Configuration)

abbrev Program := Task Receiver Fate FilePoint FileError

abbrev Action := Handler Receiver FileError

namespace Receiver

variable (receiver : Receiver)

def updateDb (update : Database → Database) : Receiver := { receiver with db := update receiver.db }

def commit : Receiver := { receiver with committed := receiver.db }

/-- The rows `_inbound_reservations` selects. -/
def inboundReservations : List FileTransfer :=
  receiver.db.fileTransfers.rows.filter fun row =>
    row.direction = .inbound ∧ row.status ≠ .completed ∧ row.filePath.isSome

def storeFile (path : Path) (content : Bytes) (mtime : Time) : Receiver :=
  { receiver with files := receiver.files.set path { content, mtime } }

def removeFile (path : Path) : Receiver := { receiver with files := receiver.files.erase path }

/-- A process that starts finds its files and what was committed. -/
def reboot : Receiver :=
  { receiver with
    db := receiver.committed
    packetLocks := ∅
    inboundLock := none
    earlyChunks := ∅
    integrityRetries := []
    migrationInProgress := false
    accepting := ∅ }

def dropEarly (fileId : String) : Receiver := { receiver with earlyChunks := receiver.earlyChunks.erase fileId }

def forgetRetry (fileId : String) : Receiver :=
  { receiver with integrityRetries := receiver.integrityRetries.filter (· ≠ fileId) }

def configure (configuration : Configuration) : Receiver :=
  { receiver with
    db := { receiver.db with
      friends := configuration.friends
      blockedPeers := configuration.blockedPeers
      groups := configuration.groups
      groupMembers := configuration.groupMembers }
    rooms := configuration.rooms
    migrationInProgress := configuration.migrationInProgress }

end Receiver

def query (read : Receiver → α) : Program α := Task.perform .query fun _ => do
  let receiver ← Handler.read
  pure (read receiver)

def execute (statement : FileStatement) : Program Unit :=
  Task.perform (.execute statement) fun fate => Handler.change fun receiver =>
    receiver.updateDb (statement.apply fate.now)

def commit : Program Unit := Task.perform .commit fun _ => Handler.change Receiver.commit

def logAndDrop (_ : FileError) : Program Unit := pure ()

def onlyIf (condition : Bool) (body : Program Unit) : Program Unit := if condition then body else pure ()

section

variable {crypto : FileCrypto} (dumps : Json → Bytes) (identity : Identity crypto)

/-! ## Acknowledgements -/

/-- The payload `_send_ack` constructs and then signs. -/
def ackPayload (fileId : String) (status : AckStatus) (ranges : Option (List (Nat × Nat))) (signature : Bytes) :
    FileAckV2Payload where
  fileId
  recipientId := identity.peerId
  status
  signature
  missingRanges := ranges.map (·.map fun range => ((range.1 : Int), (range.2 : Int)))

/-- What `_send_ack` encodes, `none` where it raises. -/
def ackDocument (fileId : String) (status : AckStatus) (ranges : Option (List (Nat × Nat))) : Option Json := do
  let unsigned ← (ackPayload identity fileId status ranges []).signedDocument
  (ackPayload identity fileId status ranges (identity.sign (crypto.canonical unsigned))).encode

def buildAck (peer : FilePeer) (fileId : String) (status : AckStatus) (ranges : Option (List (Nat × Nat))) :
    Action Json := do
  let document := ackDocument identity fileId status ranges
  Handler.change fun receiver =>
    { receiver with acks := receiver.acks ++ [{ peer, fileId, status, ranges, document }] }
  Handler.orRaise document (.valueError "Invalid file ack v2 payload")

def transmit (peer : FilePeer) (document : Json) (fate : Fate) : Action Unit := do
  Handler.refuse (fate.sendFails = true) .sendError
  Handler.change fun receiver => { receiver with sent := receiver.sent ++ [(peer.peerId, document)] }

def sendPacket (peer : FilePeer) (document : Json) : Program Unit :=
  Task.perform (.transmit peer document) fun fate => transmit peer document fate

def queueAck (peer : FilePeer) (fileId : String) (document : Json) : Program Unit := do
  execute (.queueAck peer.peerId fileId (dumps document))
  commit

def sendAck (peer : FilePeer) (fileId : String) (status : AckStatus) (ranges : Option (List (Nat × Nat))) :
    Program Unit :=
  if !peer.supports capFileTransferV2 || (status = .blocked && !peer.supports capBlockReports) then pure ()
  else do
    let document ← Task.perform (.sendAck peer fileId status ranges) fun _ => buildAck identity peer fileId status ranges
    (sendPacket peer document).recover fun _ => queueAck dumps peer fileId document

/-! ## Authorization -/

def isRoom (receiver : Receiver) (groupId : String) : Bool :=
  match receiver.rooms with
  | some rooms => ((rooms.get? groupId).bind id).isSome
  | none => groupId ∈ receiver.db.groups

def authorizedInbound (peer : FilePeer) (groupId : Option String) : Program Bool := do
  if ← query fun receiver => receiver.db.isPeerBlocked peer.peerId then pure false
  else if groupId = none ∨ groupId = some "" then query fun receiver => receiver.db.isFriend peer.peerId
  else
    let group := groupId.getD ""
    let member ← query fun receiver => receiver.db.getGroupMember group peer.peerId
    if ← query fun receiver => isRoom receiver group then
      let localMember ← query fun receiver => receiver.db.getGroupMember group identity.peerId
      pure (member.any GroupMember.active && localMember.any GroupMember.active)
    else pure false

/-! ## Storing chunks -/

/-- The verification of `_complete_inbound_transfer`. -/
def fileMatches (crypto : FileCrypto) (receiver : Receiver) (transfer : FileTransfer) (fate : Fate) : Bool :=
  fate.disk = .none && (receiver.files.get? (transfer.filePath.getD [])).any fun file =>
    file.content.length = transfer.fileSize && crypto.sha256 file.content = transfer.fileSha256

/-- Unlink the partial file and create it anew; whether that went through. -/
def recreateFile (transfer : FileTransfer) (fate : Fate) : Action Bool := do
  let path := transfer.filePath.getD []
  Handler.refuse (fate.disk = .atUnlink) .osError
  Handler.change fun receiver => receiver.removeFile path
  match fate.disk with
  | .atOpen => pure false
  | .afterWriting _ => do
      Handler.change fun receiver => receiver.storeFile path [] fate.now
      pure false
  | _ => do
      Handler.change fun receiver => receiver.storeFile path (sparseFile transfer.fileSize) fate.now
      pure true

/-- The one retry a file gets; whether it goes on. -/
def retryFile (transfer : FileTransfer) (fate : Fate) : Action Bool := do
  let receiver ← Handler.read
  if transfer.fileId ∈ receiver.integrityRetries then pure false
  else do
    Handler.change fun receiver =>
      { receiver with integrityRetries := receiver.integrityRetries ++ [transfer.fileId] }
    recreateFile transfer fate

def completeInboundTransfer (peer : FilePeer) (transfer : FileTransfer) : Program Unit := do
  let valid ← Task.perform (.verify transfer) fun fate => do
    let receiver ← Handler.read
    pure (fileMatches crypto receiver transfer fate)
  if valid then
    Task.perform (.forgetRetry transfer.fileId) fun _ => Handler.change fun receiver =>
      receiver.forgetRetry transfer.fileId
    execute (.setCompleted transfer.fileId)
    execute (.deleteReceivedChunks transfer.fileId)
    commit
    sendAck dumps identity peer transfer.fileId .completed none
  else
    execute (.setStatus transfer.fileId .failed)
    commit
    let recreated ← Task.perform (.recreate transfer) fun fate => retryFile transfer fate
    if recreated then
      execute (.deleteReceivedChunks transfer.fileId)
      execute (.setReceivedChunks transfer.fileId 0)
      execute (.setStatus transfer.fileId .transferring)
      commit
      commit
      sendAck dumps identity peer transfer.fileId .missing (some [(0, transfer.totalChunks - 1)])
    else pure ()

/-- The checks of `_store_chunk` before its first query. -/
def checkChunk (transfer : FileTransfer) (chunk : FileChunkV2Payload) : Action Unit := do
  let receiver ← Handler.read
  Handler.refuse (receiver.migrationInProgress = true) (.valueError "Storage location is being changed")
  Handler.refuse (transfer.fileSha256 = "" ∨ transfer.direction ≠ .inbound ∨
      (transfer.status ≠ .transferring ∧ transfer.status ≠ .pending ∧ transfer.status ≠ .failed) ∨
      transfer.senderId ≠ chunk.senderId ∨ transfer.recipientId ≠ chunk.recipientId ∨
      transfer.groupId ≠ chunk.groupId ∨ transfer.totalChunks ≠ chunk.totalChunks)
    (.valueError "File chunk does not match its offer")
  Handler.refuse (transfer.filePath = none) (.valueError "File reservation has expired")

def expectedSize (transfer : FileTransfer) (chunkIndex : Nat) : Nat :=
  min transfer.chunkSize (transfer.fileSize - chunkIndex * transfer.chunkSize)

/-- Decrypt a chunk and write it into the partial file; `false` is an
`OSError` of the write. -/
def writeChunk (transfer : FileTransfer) (chunk : FileChunkV2Payload) (fate : Fate) : Action Bool := do
  let plaintext ← Handler.orRaise (identity.decryptAsRecipient chunk.encryptedContent chunk.associatedData)
    (.valueError "Failed to decrypt file chunk")
  Handler.refuse (plaintext.length ≠ expectedSize transfer chunk.chunkIndex) (.valueError "Invalid file chunk size")
  let path := transfer.filePath.getD []
  let offset := chunk.chunkIndex * transfer.chunkSize
  let receiver ← Handler.read
  match receiver.files.get? path, fate.disk with
  | some file, .none => do
      Handler.change fun receiver => receiver.storeFile path (writeAt file.content offset plaintext) fate.now
      pure true
  | some file, .afterWriting bytes => do
      Handler.change fun receiver =>
        receiver.storeFile path (writeAt file.content offset (plaintext.take bytes)) fate.now
      pure false
  | _, _ => pure false

def storeChunk (peer : FilePeer) (chunk : FileChunkV2Payload) (transfer : FileTransfer) : Program Unit := do
  Task.perform (.checkChunk transfer chunk) fun _ => checkChunk transfer chunk
  if ← query fun receiver => receiver.db.isFileChunkReceived chunk.fileId chunk.chunkIndex then pure ()
  else
    let written ← Task.perform (.writeChunk transfer chunk) fun fate => writeChunk identity transfer chunk fate
    if written then
      execute (.insertReceivedChunk chunk.fileId chunk.chunkIndex)
      let received ← query fun receiver => receiver.db.countReceivedChunks chunk.fileId
      execute (.setReceivedChunks chunk.fileId received)
      onlyIf (received % fileProgressCommitChunks = 0 || received = transfer.totalChunks) commit
      onlyIf (received = transfer.totalChunks) (completeInboundTransfer dumps identity peer transfer)
    else
      execute (.setStatus chunk.fileId .failed)
      commit

/-! ## Early chunks -/

def evictStaleEarlyChunks (receiver : Receiver) (monotonic : Time) : Receiver :=
  { receiver with
    earlyChunks := receiver.earlyChunks.filter fun _ entry => !decide (entry.1 < monotonic - earlyChunkTtl) }

/-- Keep a chunk that came before its offer, within the bounds. -/
def keepEarlyChunk (peer : FilePeer) (chunk : FileChunkV2Payload) (fate : Fate) (receiver : Receiver) : Receiver :=
  let receiver := evictStaleEarlyChunks receiver fate.monotonic
  let total := (receiver.earlyChunks.values.map fun entry => entry.2.length).sum
  let entry := (receiver.earlyChunks.get? chunk.fileId).getD (fate.monotonic, [])
  if total < maxEarlyChunks ∧ entry.2.length < maxEarlyChunksPerFile then
    { receiver with earlyChunks := receiver.earlyChunks.set chunk.fileId (entry.1, entry.2 ++ [(peer, chunk)]) }
  else receiver

def popEarlyChunks (fileId : String) : Program (List (FilePeer × FileChunkV2Payload)) :=
  Task.perform (.dropEarly fileId) fun _ => do
    let receiver ← Handler.read
    Handler.change fun receiver => receiver.dropEarly fileId
    pure ((receiver.earlyChunks.get? fileId).map Prod.snd |>.getD [])

def dropEarly (fileId : String) : Program Unit :=
  Task.perform (.dropEarly fileId) fun _ => Handler.change fun receiver => receiver.dropEarly fileId

def replayChunk (fileId : String) (peer : FilePeer) (chunk : FileChunkV2Payload) : Program Unit := do
  match ← query fun receiver => receiver.db.getFileTransfer fileId with
  | none => pure ()
  | some transfer =>
      if transfer.status = .completed then pure ()
      else if ← authorizedInbound identity peer transfer.groupId then storeChunk dumps identity peer chunk transfer
      else sendAck dumps identity peer fileId .blocked none

def replayEarly (fileId : String) : Program Unit := do
  let values ← popEarlyChunks fileId
  Task.forEach values fun (peer, chunk) => (replayChunk dumps identity fileId peer chunk).recover logAndDrop

/-! ## Reservations -/

/-- Whether `_expire_abandoned_inbound` may unlink the file of a row: `none`
where the file is gone already. -/
def reclaimable (receiver : Receiver) (transfer : FileTransfer) (fate : Fate) : Option Bool :=
  let path := transfer.filePath.getD []
  match receiver.files.get? path with
  | none => none
  | some file =>
      some (file.mtime ≤ fate.now - inboundIdleTtl && decide (receiver.filesBase <+: path) && fate.disk = .none)

/-- Give up the reservation of a row, after its file has been unlinked or was
found missing. -/
def forgetReservation (transfer : FileTransfer) : Program Unit := do
  Task.perform (.forgetReservation transfer.fileId) fun _ => Handler.change fun receiver =>
    (receiver.forgetRetry transfer.fileId).dropEarly transfer.fileId
  execute (.deleteReceivedChunks transfer.fileId)
  execute (.setReceivedChunks transfer.fileId 0)
  execute (.removeFromQueue transfer.fileId)
  commit
  execute (.abandon transfer.fileId)
  commit

def unlinkFile (transfer : FileTransfer) (fate : Fate) : Action Bool := do
  Handler.change fun receiver =>
    if fate.disk = .none then receiver.removeFile (transfer.filePath.getD []) else receiver
  pure (decide (fate.disk = .none))

def expireTransfer (transfer : FileTransfer) : Program Unit := do
  let state ← Task.perform .query fun fate => do
    let receiver ← Handler.read
    pure (reclaimable receiver transfer fate)
  match state with
  | none => forgetReservation transfer
  | some false => pure ()
  | some true =>
      let references ← query fun receiver => receiver.db.countFilePathReferences (transfer.filePath.getD [])
      if references ≠ 1 then pure ()
      else
        let unlinked ← Task.perform (.reclaim transfer) fun fate => unlinkFile transfer fate
        onlyIf unlinked (forgetReservation transfer)

def expireAbandoned : Program Unit := do
  let rows ← query Receiver.inboundReservations
  Task.forEach rows expireTransfer

def hasFreeSpace (freeBytes : Option Nat) (promised : Nat) : Bool :=
  freeBytes.any fun free => fileFreeSpaceReserve + promised ≤ free

/-- The limits `_admit_inbound` checks against the current reservations. -/
def withinLimits (offer : FileOfferV2Payload) (rows : List FileTransfer) (freeBytes : Option Nat) : Bool :=
  let peerRows := rows.filter fun row => row.senderId = offer.senderId
  let promised := (rows.map FileTransfer.fileSize).sum
  let peerPromised := (peerRows.map FileTransfer.fileSize).sum
  rows.length < maxInboundFiles && peerRows.length < maxInboundFilesPerPeer &&
    promised + offer.fileSize ≤ maxInboundBytes && peerPromised + offer.fileSize ≤ maxInboundBytesPerPeer &&
    hasFreeSpace freeBytes offer.fileSize

def admitInbound (offer : FileOfferV2Payload) : Program Bool := do
  expireAbandoned
  let rows ← query Receiver.inboundReservations
  Task.perform (.admission offer rows) fun fate => pure (withinLimits offer rows fate.freeBytes)

/-- `_create_inbound`: the file exists before the row that names it. -/
def placeFile (crypto : FileCrypto) (offer : FileOfferV2Payload) (fate : Fate) : Action (Option Path) := do
  let receiver ← Handler.read
  match incomingPathFor crypto receiver.files receiver.filesBase offer.fileId offer.senderId offer.groupId
      (sanitizeFilename offer.filename) offer.createdAt, fate.disk with
  | some path, .none => do
      Handler.change fun receiver => receiver.storeFile path (sparseFile offer.fileSize) fate.now
      pure (some path)
  | some path, .afterWriting _ => do
      Handler.change fun receiver => receiver.storeFile path [] fate.now
      pure none
  | _, _ => pure none

def createInbound (crypto : FileCrypto) (offer : FileOfferV2Payload) : Program (Option Path) :=
  Task.perform (.createInbound offer) fun fate => placeFile crypto offer fate

/-! ## Offers -/

def inboundTransfer (offer : FileOfferV2Payload) (path : Path) : FileTransfer where
  fileId := offer.fileId
  filename := sanitizeFilename offer.filename
  fileSize := offer.fileSize
  chunkSize := offer.chunkSize
  totalChunks := offer.totalChunks
  senderId := offer.senderId
  recipientId := offer.recipientId
  groupId := offer.groupId
  direction := .inbound
  status := .transferring
  filePath := some path
  createdAt := offer.createdAt
  completedAt := none
  receivedChunks := 0
  fileSha256 := offer.fileSha256
  caption := offer.caption
  batchId := offer.batchId
  batchIndex := offer.batchIndex
  batchCount := offer.batchCount
  awaitingAckAt := none

/-- An offer that repeats a known file must agree with its row. -/
def conflicts (existing : FileTransfer) (offer : FileOfferV2Payload) : Bool :=
  existing.direction ≠ .inbound || existing.senderId ≠ offer.senderId || existing.recipientId ≠ offer.recipientId ||
    existing.fileSize ≠ offer.fileSize || existing.chunkSize ≠ offer.chunkSize ||
    existing.totalChunks ≠ offer.totalChunks || existing.groupId ≠ offer.groupId ||
    existing.fileSha256 ≠ offer.fileSha256

/-- `async with self._inbound_lock`. -/
def withInboundLock (self : Nat) (body : Program Bool) : Program Bool := do
  Task.acquire (.lockInbound self) (fun receiver => receiver.inboundLock.isNone) fun receiver =>
    { receiver with inboundLock := some self }
  body.ensuring (Task.perform .unlockInbound fun _ => Handler.change fun receiver =>
    { receiver with inboundLock := none })

/-- The part of `_handle_offer` under the inbound lock; whether the offer was
accepted. -/
def reserveOffer (peer : FilePeer) (offer : FileOfferV2Payload) : Program Bool := do
  if ← admitInbound offer then
    match ← createInbound crypto offer with
    | none => pure false
    | some path =>
        execute (.save (inboundTransfer offer path))
        commit
        pure true
  else
    dropEarly offer.fileId
    sendAck dumps identity peer offer.fileId .missing none
    pure false

def verified (crypto : FileCrypto) (peer : FilePeer) (signature message : Bytes) : Bool :=
  peer.signingPublicKey.any fun key => crypto.verify key signature message

/-- The checks of `_handle_offer` before its first query. -/
def checkOffer (peer : FilePeer) (offer : FileOfferV2Payload) : Action Unit := do
  Handler.refuse (peer.supports capFileTransferV2 = false) (.valueError "Peer did not negotiate file transfer v2")
  Handler.refuse (offer.valid = false) (.valueError "Invalid file offer v2 payload")
  Handler.refuse (offer.senderId ≠ peer.peerId ∨ offer.recipientId ≠ identity.peerId)
    (.valueError "File offer routing mismatch")
  Handler.refuse (verified crypto peer offer.signature (offer.signedBytes crypto) = false)
    (.valueError "Invalid file offer signature")

/-- The look-up that lets a handler go on to accept an offer. -/
def lookUpSeen (self : Nat) (offer : FileOfferV2Payload) : Action Bool := do
  let receiver ← Handler.read
  let seen := receiver.db.isMessageSeen offer.fileId
  Handler.change fun receiver =>
    if seen then receiver else { receiver with accepting := receiver.accepting.set offer.fileId self }
  pure seen

def recordOffer (self : Nat) (peer : FilePeer) (offer : FileOfferV2Payload) : Program Bool := do
  let accepted ← withInboundLock self (reserveOffer dumps identity peer offer)
  onlyIf accepted do
    execute (.markSeen offer.fileId)
    commit
  pure accepted

def endAccepting (fileId : String) : Program Unit :=
  Task.perform (.endAccepting fileId) fun _ => Handler.change fun receiver =>
    { receiver with accepting := receiver.accepting.erase fileId }

def acceptOffer (self : Nat) (peer : FilePeer) (offer : FileOfferV2Payload) : Program Unit := do
  if ← Task.perform (.seenCheck offer self) fun _ => lookUpSeen self offer then pure ()
  else
    let accepted ← (recordOffer dumps identity self peer offer).ensuring (endAccepting offer.fileId)
    onlyIf accepted (replayEarly dumps identity offer.fileId)

def handleNewOffer (self : Nat) (peer : FilePeer) (offer : FileOfferV2Payload) : Program Unit := do
  if ← authorizedInbound identity peer offer.groupId then
    let migrating ← Task.perform (.offerMigration offer) fun _ => do
      let receiver ← Handler.read
      pure receiver.migrationInProgress
    if migrating then
      dropEarly offer.fileId
      sendAck dumps identity peer offer.fileId .missing none
    else acceptOffer dumps identity self peer offer
  else
    dropEarly offer.fileId
    sendAck dumps identity peer offer.fileId .blocked none

def handleOffer (self : Nat) (peer : FilePeer) (offer : FileOfferV2Payload) : Program Unit := do
  Task.perform .checkPacket fun _ => checkOffer identity peer offer
  match ← query fun receiver => receiver.db.getFileTransfer offer.fileId with
  | none => handleNewOffer dumps identity self peer offer
  | some existing =>
      if conflicts existing offer then Task.failed (.valueError "Conflicting file offer")
      else
        onlyIf (existing.status = .completed) (sendAck dumps identity peer offer.fileId .completed none)
        replayEarly dumps identity offer.fileId

/-! ## Chunks, reconnection and packets -/

def checkChunkPacket (peer : FilePeer) (chunk : FileChunkV2Payload) : Action Unit := do
  Handler.refuse (peer.supports capFileTransferV2 = false) (.valueError "Peer did not negotiate file transfer v2")
  Handler.refuse (chunk.valid = false) (.valueError "Invalid file chunk v2 payload")
  Handler.refuse (chunk.senderId ≠ peer.peerId ∨ chunk.recipientId ≠ identity.peerId)
    (.valueError "File chunk routing mismatch")
  Handler.refuse (verified crypto peer chunk.signature (chunk.signedBytes crypto) = false)
    (.valueError "Invalid file chunk signature")

def handleChunk (peer : FilePeer) (chunk : FileChunkV2Payload) : Program Unit := do
  Task.perform .checkPacket fun _ => checkChunkPacket identity peer chunk
  match ← query fun receiver => receiver.db.getFileTransfer chunk.fileId with
  | none => Task.perform (.keepEarly peer chunk) fun fate => Handler.change (keepEarlyChunk peer chunk fate)
  | some transfer =>
      if transfer.status = .completed then sendAck dumps identity peer chunk.fileId .completed none
      else if ← authorizedInbound identity peer transfer.groupId then
        (storeChunk dumps identity peer chunk transfer).recover logAndDrop
      else sendAck dumps identity peer chunk.fileId .blocked none

/-- The rows `get_file_transfers(peer_id, include_group=True)` returns that
`resume_for_peer` does not skip. -/
def resumable (receiver : Receiver) (peerId : PeerId) : List FileTransfer :=
  let transfers := receiver.db.fileTransfers.rows.filter fun row =>
    row.direction = .inbound ∧ row.senderId = peerId ∧ row.fileSha256 ≠ ""
  transfers.mergeSort fun first second => decide (second.createdAt ≤ first.createdAt)

/-- What a resume asks for: the missing ranges, or everything once more where a
failed transfer misses nothing. -/
def resumeRanges (transfer : FileTransfer) (missing : List (Nat × Nat)) : List (Nat × Nat) :=
  if missing = [] ∧ transfer.status = .failed then [(0, transfer.totalChunks - 1)] else missing

def resumeTransfer (peer : FilePeer) (transfer : FileTransfer) : Program Unit := do
  if !peer.supports capFileTransferV2 then pure ()
  else if ← authorizedInbound identity peer transfer.groupId then
    if transfer.status = .completed then sendAck dumps identity peer transfer.fileId .completed none
    else if (transfer.status = .transferring ∨ transfer.status = .failed) ∧ transfer.filePath ≠ none then
      let missing ← Task.perform (.resume transfer) fun _ => do
        let receiver ← Handler.read
        pure (receiver.db.getMissingFileChunkRanges transfer.fileId transfer.totalChunks)
      let ranges := resumeRanges transfer missing
      if ranges = [] then completeInboundTransfer dumps identity peer transfer
      else sendAck dumps identity peer transfer.fileId .missing (some ranges)
    else pure ()
  else pure ()

def resumeForPeer (peer : FilePeer) : Program Unit := do
  if ← query fun receiver => receiver.db.isPeerBlocked peer.peerId then pure ()
  else
    let transfers ← query fun receiver => resumable receiver peer.peerId
    Task.forEach transfers (resumeTransfer dumps identity peer)

inductive FilePacket where
  | offer (payload : FileOfferV2Payload)
  | chunk (payload : FileChunkV2Payload)
deriving DecidableEq, Repr

/-- `handle_packet`: one packet of a peer at a time, errors logged. -/
def handlePacket (self : Nat) (peer : FilePeer) (packet : FilePacket) : Program Unit := do
  Task.acquire (.lockPeer peer.peerId self) (fun receiver => !receiver.packetLocks.contains peer.peerId)
    fun receiver => { receiver with packetLocks := receiver.packetLocks.set peer.peerId self }
  let handled := match packet with
    | .offer offer => handleOffer dumps identity self peer offer
    | .chunk chunk => handleChunk dumps identity peer chunk
  (handled.recover logAndDrop).ensuring (Task.perform (.unlockPeer peer.peerId) fun _ =>
    Handler.change fun receiver => { receiver with packetLocks := receiver.packetLocks.erase peer.peerId })

def expireAbandonedInbound (self : Nat) : Program Unit := do
  let _ ← withInboundLock self do
    if ← query Receiver.migrationInProgress then pure false
    else
      expireAbandoned
      pure true
  pure ()

/-! ## The service -/

inductive FileRequest where
  | packet (peer : FilePeer) (packet : FilePacket)
  | resumeFor (peer : FilePeer)
  | sweep
  | flushProgress
  | configure (configuration : Configuration)

def fileProgram (self : Nat) : FileRequest → Program Unit
  | .packet peer packet => handlePacket dumps identity self peer packet
  | .resumeFor peer => resumeForPeer dumps identity peer
  | .sweep => expireAbandonedInbound self
  | .flushProgress => commit
  | .configure configuration =>
      Task.perform (.configure configuration) fun _ => Handler.change fun receiver => receiver.configure configuration

def fileService : Service Receiver Fate FilePoint FileError FileRequest where
  program := fun request self => fileProgram dumps identity self request
  reboot := Receiver.reboot

end

end MeshTalk.Files
