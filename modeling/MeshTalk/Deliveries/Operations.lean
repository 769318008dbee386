import MeshTalk.Deliveries.Sender

namespace MeshTalk.Deliveries

open MeshTalk.Library MeshTalk.Protocol MeshTalk.Store MeshTalk.Files

/-! # Sends, retries, flushes and acknowledgements

Every operation of the sending half is built from the deliveries of one file to
one recipient.
-/

/-- `async with self._flush_lock(file_id, recipient)`. -/
def withFlushLock (task : Nat) (fileId : String) (recipientId : PeerId) (body : Program α) : Program α := do
  Task.acquire (.lockDelivery task fileId recipientId) (fun sender => !sender.flushLocks.contains (fileId, recipientId))
    fun sender => { sender with flushLocks := sender.flushLocks.set (fileId, recipientId) task }
  body.ensuring (Task.perform (.unlockDelivery task fileId recipientId) fun _ => Handler.change fun sender =>
    { sender with flushLocks := sender.flushLocks.erase (fileId, recipientId) })

/-- A set of file ids in the order its iteration takes. -/
def arrange (order ids : List String) : List String :=
  order.filter (fun id => id ∈ ids) ++ ids.filter fun id => id ∉ order

section

variable {crypto : FileCrypto} (identity : Identity crypto) (dumps : Json → Bytes)
  (encryptForRecipient : Bytes → Bytes → Json → Bytes)

/-! ## One delivery -/

def queueDelivery (task : Nat) (transfer : FileTransfer) (recipientId : PeerId) (key offer : Bytes) : Program Bool := do
  store task (.queue recipientId .fileOfferV2 offer transfer.fileId transfer.groupId)
  if ← queueRanges identity dumps encryptForRecipient task transfer recipientId key (allChunks transfer) then
    setDelivery task transfer recipientId .queued
    pure true
  else pure false

def sendDelivery (task : Nat) (transfer : FileTransfer) (recipientId : PeerId) (peer : RecipientPeer) (key offer : Bytes) :
    Program Bool := do
  setDelivery task transfer recipientId .transferring
  if ← attempt peer .fileOfferV2 offer then
    if ← streamRanges identity dumps encryptForRecipient task peer transfer recipientId (allChunks transfer) then pure true
    else query fun sender => decide (statusOf sender transfer recipientId = some .queued)
  else queueDelivery identity dumps encryptForRecipient task transfer recipientId key offer

def unavailable (task : Nat) (transfer : FileTransfer) (recipientId : PeerId) : Program Bool := do
  setDelivery task transfer recipientId .unavailable
  pure false

/-- The key to encrypt for: that of the connection, else the remembered one. -/
def deliveryKey (peer : Option RecipientPeer) (stored : Option PeerRecord) : Option Bytes :=
  let key := match peer with
    | some connected => connected.encryptionPublicKey
    | none => stored.bind PeerRecord.publicKey
  key.filter (· ≠ [])

def deliverTo (task : Nat) (transfer : FileTransfer) (recipientId : PeerId) (peer : Option RecipientPeer)
    (stored : Option PeerRecord) : Program Bool :=
  match deliveryKey peer stored with
  | none => unavailable task transfer recipientId
  | some key => do
      let offer ← prepareOffer identity dumps transfer recipientId
      match peer with
      | none => queueDelivery identity dumps encryptForRecipient task transfer recipientId key offer
      | some connected => sendDelivery identity dumps encryptForRecipient task transfer recipientId connected key offer

/-- `_deliver_v2`; whether bytes are flowing or queued. -/
def deliverV2 (task : Nat) (transfer : FileTransfer) (recipientId : PeerId) : Program Bool := do
  if ← mayDeliver identity transfer recipientId then
    if ← supportsV2 recipientId then
      let peer ← query fun sender => sender.connections.get? recipientId
      let stored ← query fun sender => sender.db.peers.find? recipientId
      deliverTo identity dumps encryptForRecipient task transfer recipientId peer stored
    else unavailable task transfer recipientId
  else unavailable task transfer recipientId

/-! ## New files -/

def deliveryFailed : String := "Failed to deliver file; transfer marked failed and can be retried"

structure Batch where
  id : String
  index : Nat
  count : Nat
deriving DecidableEq, Repr

def anyEligible (groupId : String) : List PeerId → Program Bool
  | [] => pure false
  | recipientId :: rest => do
      let first ← groupRecipientEligible groupId recipientId
      let others ← anyEligible groupId rest
      pure (first || others)

structure Snapshot where
  fileId : String
  path : Path
  content : Bytes
  takenAt : Time
deriving DecidableEq, Repr

/-- The row of a file whose snapshot has been taken. -/
def outboundTransfer (source : Path) (snapshot : Snapshot) (caption : String) (groupId : Option String)
    (recipients : List PeerId) (batch : Option Batch) : FileTransfer where
  fileId := snapshot.fileId
  filename := sanitizeFilename (source.getLastD "")
  fileSize := snapshot.content.length
  chunkSize := maxFileChunkSize
  totalChunks := (snapshot.content.length + maxFileChunkSize - 1) / maxFileChunkSize
  senderId := identity.peerId
  recipientId := if (groupId.filter (· ≠ "")).isSome then "" else recipients.headD ""
  groupId
  direction := .outbound
  status := .pending
  filePath := some snapshot.path
  createdAt := snapshot.takenAt
  completedAt := none
  receivedChunks := 0
  fileSha256 := crypto.sha256 snapshot.content
  caption
  batchId := batch.map Batch.id
  batchIndex := batch.map Batch.index
  batchCount := batch.map Batch.count
  awaitingAckAt := none

/-- Validate the source and the caption, and copy and hash the source. -/
def takeSnapshot (source : Path) (caption : String) : Program Snapshot :=
  Task.perform .snapshot fun fate => do
    let sender ← Handler.read
    let file ← Handler.orRaise (sender.files.get? source) (.valueError "File not found")
    Handler.refuse (file.content = []) (.valueError "File is empty")
    Handler.refuse (maxFileSize < file.content.length) (.valueError "File exceeds 50 MiB limit")
    Handler.refuse (maxFileCaptionBytes < caption.utf8ByteSize) (.valueError "Caption exceeds 1024 UTF-8 bytes")
    Handler.refuse (fate.readFails = true) (.valueError "Could not store a local copy of file")
    let path := outgoingPathFor sender.filesBase fate.uuid (sanitizeFilename (source.getLastD ""))
    Handler.change fun sender =>
      { sender with files := sender.files.set path { content := file.content, mtime := fate.now } }
    pure { fileId := fate.uuid, path, content := file.content, takenAt := fate.now }

def markRecipient (task : Nat) (transfer : FileTransfer) (groupId : String) (recipientId : PeerId) : Program Unit := do
  let eligible ← groupRecipientEligible groupId recipientId
  store task (.setDelivery transfer.fileId recipientId (if eligible then .pending else .unavailable))

/-- The first states of the deliveries of a group transfer. -/
def markRecipients (task : Nat) (transfer : FileTransfer) (recipients : List PeerId) : Program Unit :=
  match transfer.group? with
  | some groupId => Task.forEach recipients (markRecipient task transfer groupId)
  | none => pure ()

/-- A recipient that is no longer eligible is skipped. -/
def passOver (task : Nat) (transfer : FileTransfer) (recipientId : PeerId) : Program Bool :=
  Task.perform (.passOver task transfer recipientId) fun _ => do
    Handler.change fun sender => sender.closeWindow task transfer.fileId recipientId
    pure false

def deliverStored (task : Nat) (fileId : String) (recipientId : PeerId) : Program Bool :=
  withFlushLock task fileId recipientId do
    match ← query fun sender => sender.db.getFileTransfer fileId with
    | none => .failed .typeError
    | some transfer => deliverV2 identity dumps encryptForRecipient task transfer recipientId

def deliverOne (task : Nat) (transfer : FileTransfer) (recipientId : PeerId) : Program Bool :=
  match transfer.group? with
  | none => deliverStored identity dumps encryptForRecipient task transfer.fileId recipientId
  | some groupId => do
      if ← groupRecipientEligible groupId recipientId then
        deliverStored identity dumps encryptForRecipient task transfer.fileId recipientId
      else passOver task transfer recipientId

/-- The loop of `_create_send`; whether a delivery went through. -/
def deliverEach (task : Nat) (transfer : FileTransfer) : List PeerId → Program Bool
  | [] => pure false
  | recipientId :: rest => do
      let first ← deliverOne identity dumps encryptForRecipient task transfer recipientId
      let others ← deliverEach task transfer rest
      pure (first || others)

def sendSnapshot (task : Nat) (transfer : FileTransfer) (recipients : List PeerId) : Program String := do
  store task (.save transfer)
  markRecipients task transfer recipients
  let delivered ← deliverEach identity dumps encryptForRecipient task transfer recipients
  recomputeAggregate task transfer.fileId
  if delivered then pure transfer.fileId else refused deliveryFailed

def noV2Support : String := "Recipient does not support file_transfer_v2; ask them to upgrade MeshTalk to receive files"

/-- Whether `_create_send` has anyone to send to, `none`, or the reason why not. -/
def noRecipient (groupId : Option String) (recipients : List PeerId) : Program (Option String) :=
  match groupId.filter (· ≠ "") with
  | some group =>
      if recipients = [] then pure (some "No other members to send to")
      else do
        if ← anyEligible group recipients then pure none
        else pure (some ("No group members can receive files " ++
          "(members may be blocked, inactive, or on a client without file_transfer_v2)"))
  | none => match recipients with
    | [] => .failed .typeError
    | first :: _ => do
        if ← supportsV2 first then pure none else pure (some noV2Support)

def createSend (task : Nat) (source : Path) (caption : String) (groupId : Option String) (recipients : List PeerId)
    (batch : Option Batch) : Program String := do
  if ← query Sender.migrationInProgress then
    refused "The storage location is being changed; try again when it finishes"
  else match ← noRecipient groupId recipients with
    | some reason => refused reason
    | none =>
        let snapshot ← takeSnapshot source caption
        sendSnapshot identity dumps encryptForRecipient task
          (outboundTransfer identity source snapshot caption groupId recipients batch) recipients

def sendFile (task : Nat) (recipientId : PeerId) (source : Path) (caption : String) (batch : Option Batch) :
    Program String := do
  if ← query fun sender => sender.db.isPeerBlocked recipientId then
    refused "This peer is blocked; unblock them to send files"
  else if ← query fun sender => sender.db.isFriend recipientId then
    createSend identity dumps encryptForRecipient task source caption none [recipientId] batch
  else refused "Recipient is not a friend"

/-- `send_group_file` and `_prepare_group_send`. -/
def sendGroupFile (task : Nat) (groupId : String) (source : Path) (caption : String) (batch : Option Batch) :
    Program String := do
  if ← activeGroupSender identity groupId then
    let members ← query fun sender => sender.db.groupMembers.rows.filter fun row => row.groupId = groupId
    let recipients := (members.map GroupMember.peerId).filter (· ≠ identity.peerId)
    createSend identity dumps encryptForRecipient task source caption (some groupId) recipients batch
  else refused "Not an active member of this group"

inductive Target where
  | direct (recipientId : PeerId)
  | group (groupId : String)
deriving DecidableEq, Repr

def sendTo (task : Nat) (target : Target) (source : Path) (caption : String) (batch : Option Batch) : Program String :=
  match target with
  | .direct recipientId => sendFile identity dumps encryptForRecipient task recipientId source caption batch
  | .group groupId => sendGroupFile identity dumps encryptForRecipient task groupId source caption batch

/-- The caption of a batch goes with its first file. -/
def batchCaption (caption : String) (index : Nat) : Option String → String
  | some own => own
  | none => if index = 0 then caption else ""

/-- `send_batch`: an entry that fails does not keep the others from being sent. -/
def sendBatch (task : Nat) (target : Target) (entries : List (Path × Option String)) (caption : String) :
    Program Unit := do
  if entries = [] ∨ maxFileBatchSize < entries.length then refused "Batch must contain 1..32 files"
  else
    let id ← queryAt fun fate _ => fate.uuid
    Task.forEach entries.zipIdx fun entry => do
      let batch : Batch := { id, index := entry.2, count := entries.length }
      let sending : Program Unit := do
        let _ ← sendTo identity dumps encryptForRecipient task target entry.1.1 (batchCaption caption entry.2 entry.1.2)
          (some batch)
      sending.recover logAndDrop

/-! ## Retries -/

def anySupports : List PeerId → Program Bool
  | [] => pure false
  | recipientId :: rest => do
      let first ← supportsV2 recipientId
      let others ← anySupports rest
      pure (first || others)

/-- Why a group member cannot receive files, most actionable first. -/
def groupRecipientBlockedReason (groupId : String) (recipientId : PeerId) : Program String := do
  if ← query fun sender => (sender.db.getGroupMember groupId recipientId).any GroupMember.active then
    if ← query fun sender => sender.db.isPeerBlocked recipientId then pure "Recipient is blocked; unblock them to retry"
    else if ← supportsV2 recipientId then pure "Recipient cannot receive files"
    else pure noV2Support
  else pure "Recipient is not an active member of this group"

/-- A member that may not receive the file any more. -/
def dropTarget (task : Nat) (transfer : FileTransfer) (only : Bool) (groupId : String) (recipientId : PeerId) :
    Program Bool := do
  setDelivery task transfer recipientId .unavailable
  if only then
    let reason ← groupRecipientBlockedReason groupId recipientId
    refused reason
  else pure false

def redeliver (task : Nat) (transfer : FileTransfer) (only : Bool) (recipientId : PeerId) : Program Bool := do
  if ← deliverV2 identity dumps encryptForRecipient task transfer recipientId then pure true
  else if only ∨ transfer.group? = none then refused deliveryFailed
  else pure false

/-- One target of `retry_file`; whether it was delivered. -/
def retryTarget (task : Nat) (transfer : FileTransfer) (only : Bool) (recipientId : PeerId) : Program Bool :=
  withFlushLock task transfer.fileId recipientId do
    store task (.removeFile transfer.fileId recipientId)
    match transfer.group? with
    | none => redeliver identity dumps encryptForRecipient task transfer only recipientId
    | some groupId =>
        if ← groupRecipientEligible groupId recipientId then
          redeliver identity dumps encryptForRecipient task transfer only recipientId
        else dropTarget task transfer only groupId recipientId

def retryTargets (task : Nat) (transfer : FileTransfer) (only : Bool) : List PeerId → Program Bool
  | [] => pure false
  | recipientId :: rest => do
      let first ← retryTarget identity dumps encryptForRecipient task transfer only recipientId
      let others ← retryTargets task transfer only rest
      pure (first || others)

/-- The recipient of a direct transfer, `none` for a group. -/
def directRecipient (transfer : FileTransfer) : Option PeerId :=
  match transfer.group? with
  | some _ => none
  | none => some transfer.recipientId

/-- Why there is nothing to retry. -/
def noRetryReason (statuses : List FileStatus) : String :=
  if .sent ∈ statuses then "Transfer is awaiting acknowledgement; retry after 30 seconds"
  else "Transfer has no retryable delivery"

/-- The end of `retry_file`, from the check of the source file. -/
def retrySource (task : Nat) (transfer : FileTransfer) (only : Bool) (targets : List PeerId) : Program Unit := do
  if ← query fun sender => hasSource sender transfer then
    if ← retryTargets identity dumps encryptForRecipient task transfer only targets then pure ()
    else refused deliveryFailed
  else
    store task (.setStatus transfer.fileId (directRecipient transfer) .failed)
    refused "Source file not found; it may have been moved or deleted"

def retryGroup (task : Nat) (transfer : FileTransfer) (groupId : String) (recipientId : Option PeerId) :
    Program Unit := do
  if ← activeGroupSender identity groupId then
    let targets ← queryAt fun fate sender =>
      ((sender.db.getFileDeliveries transfer.fileId).filter fun delivery =>
        recipientId.all (· = delivery.recipientId) &&
          sender.retryable transfer.fileId delivery.recipientId delivery.status delivery.awaitingAckAt fate).map
        FileDelivery.recipientId
    if targets = [] then
      let statuses ← query fun sender => ((sender.db.getFileDeliveries transfer.fileId).filter fun delivery =>
        recipientId.all (· = delivery.recipientId)).map FileDelivery.status
      refused (noRetryReason statuses)
    else if recipientId.isSome then
      retrySource identity dumps encryptForRecipient task transfer true targets
    else if ← anySupports targets then
      retrySource identity dumps encryptForRecipient task transfer false targets
    else
      Task.forEach targets fun target => setDelivery task transfer target .unavailable
      refused "No group members support file_transfer_v2; ask them to upgrade MeshTalk to receive files"
  else refused "Not an active member of this group"

def retryDirect (task : Nat) (transfer : FileTransfer) (recipientId : Option PeerId) : Program Unit := do
  let accepted ← queryAt fun fate sender =>
    recipientId.all (fun target => target = "" || target = transfer.recipientId) &&
      sender.retryable transfer.fileId transfer.recipientId transfer.status transfer.awaitingAckAt fate
  let recipient := transfer.recipientId
  if !accepted then refused (noRetryReason [transfer.status])
  else if ← query fun sender => sender.db.isPeerBlocked recipient then
    store task (.removeFile transfer.fileId recipient)
    store task (.setStatus transfer.fileId (some recipient) .blocked)
    refused "This peer is blocked; unblock them to retry"
  else if ← query fun sender => sender.db.isFriend recipient then
    if ← supportsV2 recipient then
      retrySource identity dumps encryptForRecipient task transfer recipientId.isSome [recipient]
    else
      store task (.removeFile transfer.fileId recipient)
      setDelivery task transfer recipient .unavailable
      refused noV2Support
  else
    store task (.removeFile transfer.fileId recipient)
    store task (.setStatus transfer.fileId (some recipient) .unavailable)
    refused "Recipient is not a friend"

def retryFile (task : Nat) (fileId : String) (recipientId : Option PeerId) : Program Unit := do
  match ← query fun sender => sender.db.getFileTransfer fileId with
  | none => refused "Unknown outbound file_id"
  | some transfer =>
      if transfer.direction ≠ .outbound then refused "Unknown outbound file_id"
      else if transfer.fileSha256 = "" then refused "Legacy v1 file transfers are no longer supported"
      else match transfer.group? with
        | some groupId => retryGroup identity dumps encryptForRecipient task transfer groupId recipientId
        | none => retryDirect identity dumps encryptForRecipient task transfer recipientId

/-! ## Flushing the queue -/

def removeItem (task : Nat) (item : OutgoingRow) : Program Unit := store task (.removeQueued item.id)

def pendingItems (peerId : PeerId) : Program (List OutgoingRow) := query fun sender => sender.db.getPendingOutgoing peerId

/-- Drop the queued packets of a file that need not be sent any more. -/
def purgeItems (task : Nat) (peerId : PeerId) (fileId : String) : Program Unit := do
  let items ← pendingItems peerId
  Task.forEach items fun item => onlyIf (item.messageId = some fileId) (removeItem task item)

def purgeLegacyFile (task : Nat) (fileId : String) : Program Unit := do
  match ← query fun sender => sender.db.getFileTransfer fileId with
  | none => pure ()
  | some transfer =>
      onlyIf (transfer.direction = .outbound && transfer.fileSha256 = "" && transfer.status ≠ .completed)
        (store task (.setStatus transfer.fileId (directRecipient transfer) .failed))

/-- The file ids that the queued packets of some types name, as a set. -/
def fileIdsOf (items : List OutgoingRow) (types : List Nat) : List String :=
  ((items.filter fun item => item.packetType ∈ types).filterMap fun item => item.messageId.filter (· ≠ "")).dedup

def purgeObsoleteV1Queue (task : Nat) (peerId : PeerId) : Program Unit := do
  let items ← pendingItems peerId
  Task.forEach items fun item => onlyIf (item.packetType ∈ removedV1FilePacketTypes) (removeItem task item)
  let ids ← queryAt fun fate _ => arrange fate.order (fileIdsOf items removedV1FilePacketTypes)
  Task.forEach ids (purgeLegacyFile task)

def fileTypes : List Nat := [PacketType.fileOfferV2.value, PacketType.fileChunkV2.value, PacketType.fileAckV2.value]

def blockFile (task : Nat) (peerId : PeerId) (fileId : String) : Program Unit := do
  match ← query fun sender => sender.db.getFileTransfer fileId with
  | none => pure ()
  | some transfer =>
      if transfer.direction ≠ .outbound then pure ()
      else match transfer.group? with
        | some _ => do
            let status ← query fun sender => statusOf sender transfer peerId
            onlyIf (status ≠ none ∧ status ≠ some .completed) (setDelivery task transfer peerId .blocked)
        | none => onlyIf (transfer.status ≠ .completed) (setDelivery task transfer peerId .blocked)

/-- The queued file packets of a blocked peer are dropped. -/
def flushBlocked (task : Nat) (peerId : PeerId) : Program Unit := do
  let items ← pendingItems peerId
  Task.forEach items fun item => onlyIf (item.packetType ∈ fileTypes) (removeItem task item)
  let ids ← queryAt fun fate _ => arrange fate.order (fileIdsOf items fileTypes)
  Task.forEach ids (blockFile task peerId)

def flushAck (task : Nat) (peer : RecipientPeer) (item : OutgoingRow) : Program Unit := do
  if item.packetType ≠ PacketType.fileAckV2.value then pure ()
  else if !peer.supports capFileTransferV2 then removeItem task item
  else if ← attempt peer .fileAckV2 item.encryptedPayload then removeItem task item
  else pure ()

/-- Send queued packets in turn, dropping each that went out; whether all did. -/
def sendItems (task : Nat) (peer : RecipientPeer) : List (PacketType × OutgoingRow) → Program Bool
  | [] => pure true
  | (packetType, item) :: rest => do
      if ← attempt peer packetType item.encryptedPayload then
        removeItem task item
        sendItems task peer rest
      else pure false

def itemsOf (items : List OutgoingRow) (fileId : String) (packetType : PacketType) : List (PacketType × OutgoingRow) :=
  (items.filter fun item => item.messageId = some fileId ∧ item.packetType = packetType.value).map fun item =>
    (packetType, item)

/-- The first queued offer, then the queued chunks. -/
def flushItems (task : Nat) (peer : RecipientPeer) (transfer : FileTransfer) : Program Unit := do
  let items ← pendingItems peer.peerId
  let offers := itemsOf items transfer.fileId .fileOfferV2
  if ← sendItems task peer (offers.take 1 ++ itemsOf items transfer.fileId .fileChunkV2) then
    markSentUnlessCompleted task transfer peer.peerId
  else pure ()

def dropFlush (task : Nat) (peer : RecipientPeer) (transfer : FileTransfer) : Program Unit := do
  store task (.removeFile transfer.fileId peer.peerId)
  setDelivery task transfer peer.peerId .unavailable

def flushUncompleted (task : Nat) (peer : RecipientPeer) (transfer : FileTransfer) : Program Unit :=
  match transfer.group? with
  | some _ => do
      if ← query fun sender => decide (statusOf sender transfer peer.peerId = some .completed) then
        purgeItems task peer.peerId transfer.fileId
      else flushItems task peer transfer
  | none => flushItems task peer transfer

def flushTransfer (task : Nat) (peer : RecipientPeer) (transfer : FileTransfer) : Program Unit := do
  if !peer.supports capFileTransferV2 then dropFlush task peer transfer
  else if ← mayDeliver identity transfer peer.peerId then
    if transfer.direction = .outbound ∧ transfer.status = .completed then purgeItems task peer.peerId transfer.fileId
    else flushUncompleted task peer transfer
  else dropFlush task peer transfer

def flushFile (task : Nat) (peer : RecipientPeer) (fileId : String) : Program Unit :=
  withFlushLock task fileId peer.peerId do
    match ← query fun sender => sender.db.getFileTransfer fileId with
    | none => purgeItems task peer.peerId fileId
    | some transfer => flushTransfer identity task peer transfer

def flushPending (task : Nat) (peer : RecipientPeer) : Program Unit := do
  let items ← pendingItems peer.peerId
  Task.forEach items (flushAck task peer)
  let ids ← queryAt fun fate _ =>
    arrange fate.order (fileIdsOf items [PacketType.fileOfferV2.value, PacketType.fileChunkV2.value])
  Task.forEach ids (flushFile identity task peer)

def flushForPeer (task : Nat) (peerId : PeerId) : Program Unit := do
  if ← query Sender.migrationInProgress then pure ()
  else match ← query fun sender => sender.connections.get? peerId with
    | none => pure ()
    | some peer =>
        purgeObsoleteV1Queue task peerId
        if ← query fun sender => sender.db.isPeerBlocked peerId then flushBlocked task peerId
        else flushPending identity task peer

/-! ## Acknowledgements -/

/-- The books of resend requests without what has left the window. -/
def pruneResendUsage (sender : Sender) (monotonic : Time) : Sender :=
  { sender with
    resendUsage := sender.resendUsage.filter fun _ usage => !decide (resendWindow ≤ monotonic - usage.1)
    resendTotal := if resendWindow ≤ monotonic - sender.resendTotal.1 then (monotonic, 0, 0) else sender.resendTotal }

/-- The bytes a resend request asks for. -/
def requestedBytes (transfer : FileTransfer) (ranges : List (Nat × Nat)) : Nat :=
  (ranges.map fun range =>
    min transfer.fileSize ((range.2 + 1) * transfer.chunkSize) - range.1 * transfer.chunkSize).sum

def reserveResend (peerId : PeerId) (transfer : FileTransfer) (ranges : List (Nat × Nat)) : Program Bool :=
  Task.perform (.reserveResend peerId transfer) fun fate => do
    Handler.change fun sender => pruneResendUsage sender fate.monotonic
    let sender ← Handler.read
    let known := sender.resendUsage.get? peerId
    let usage := known.getD (fate.monotonic, 0, 0)
    let total := sender.resendTotal
    let requested := requestedBytes transfer ranges
    if (known = none ∧ maxResendPeers ≤ sender.resendUsage.size) ∨ ranges = [] ∨
        maxResendRequestsPerPeer ≤ usage.2.1 ∨ maxResendBytesPerPeer < usage.2.2 + requested ∨
        maxResendRequests ≤ total.2.1 ∨ maxResendBytes < total.2.2 + requested then pure false
    else do
      Handler.change fun sender =>
        { sender with
          resendUsage := sender.resendUsage.set peerId (usage.1, usage.2.1 + 1, usage.2.2 + requested)
          resendTotal := (total.1, total.2.1 + 1, total.2.2 + requested) }
      pure true

/-- The `try` block of `_resend_missing_chunks`. -/
def resendStream (task : Nat) (peer : RecipientPeer) (transfer : FileTransfer) (ranges : List (Nat × Nat)) :
    Program Unit := do
  store task (.removeFile transfer.fileId peer.peerId)
  if ← streamRanges identity dumps encryptForRecipient task peer transfer peer.peerId (rangeIndices ranges) then pure ()
  else
    let status ← query fun sender => statusOf sender transfer peer.peerId
    onlyIf (status ≠ some .failed ∧ status ≠ some .unavailable) (setDelivery task transfer peer.peerId .queued)

def requeue (task : Nat) (peer : RecipientPeer) (transfer : FileTransfer) (ranges : List (Nat × Nat)) : Program Unit :=
  match peer.encryptionPublicKey.filter (· ≠ []) with
  | none => pure ()
  | some key => do
      let queued ← queueRanges identity dumps encryptForRecipient task transfer peer.peerId key (rangeIndices ranges)
      onlyIf queued (setDelivery task transfer peer.peerId .queued)

def resendMissingChunks (task : Nat) (peer : RecipientPeer) (transfer : FileTransfer) (ranges : List (Nat × Nat)) :
    Program Unit :=
  withFlushLock task transfer.fileId peer.peerId <|
    (resendStream identity dumps encryptForRecipient task peer transfer ranges).recover fun _ =>
      (requeue identity dumps encryptForRecipient task peer transfer ranges).recover logAndDrop

/-- The recipient is no longer one to send to. -/
def withdraw (task : Nat) (peer : RecipientPeer) (transfer : FileTransfer) (status : FileStatus) : Program Unit := do
  store task (.setStatus transfer.fileId (directRecipient transfer) status)
  store task (.removeFile transfer.fileId peer.peerId)

/-- How much repeated work one peer can request is bounded. -/
def resendWithinLimits (task : Nat) (peer : RecipientPeer) (transfer : FileTransfer) (ranges : List (Nat × Nat)) :
    Program Unit := do
  if ← reserveResend peer.peerId transfer ranges then
    resendMissingChunks identity dumps encryptForRecipient task peer transfer ranges
  else pure ()

def acceptMissing (task : Nat) (peer : RecipientPeer) (transfer : FileTransfer) (ranges : List (Nat × Nat)) :
    Program Unit := do
  match transfer.group? with
  | some groupId =>
      if ← authorizedInbound identity peer groupId then
        resendWithinLimits identity dumps encryptForRecipient task peer transfer ranges
      else
        setDelivery task transfer peer.peerId .unavailable
        store task (.removeFile transfer.fileId peer.peerId)
  | none =>
      if ← query fun sender => sender.db.isPeerBlocked peer.peerId then withdraw task peer transfer .blocked
      else if ← query fun sender => sender.db.isFriend peer.peerId then
        resendWithinLimits identity dumps encryptForRecipient task peer transfer ranges
      else withdraw task peer transfer .unavailable

def acceptAck (task : Nat) (peer : RecipientPeer) (transfer : FileTransfer) (ack : FileAckV2Payload) : Program Unit :=
  match ack.status with
  | .completed => do
      setDelivery task transfer peer.peerId .completed
      forgetAwaiting transfer.fileId peer.peerId
      store task (.removeFile transfer.fileId peer.peerId)
  | .blocked => do
      setDelivery task transfer peer.peerId .blocked
      store task (.removeFile transfer.fileId peer.peerId)
  | .missing =>
      let ranges := (ack.missingRanges.getD []).map fun range => (range.1.toNat, range.2.toNat)
      if ranges.any fun range => transfer.totalChunks ≤ range.2 then pure ()
      else acceptMissing identity dumps encryptForRecipient task peer transfer ranges

/-- The checks of `_handle_ack` before its first query. -/
def checkAck (crypto : FileCrypto) (peer : RecipientPeer) (ack : FileAckV2Payload) : Action Unit := do
  Handler.refuse (peer.supports capFileTransferV2 = false) (.valueError "Peer did not negotiate file transfer v2")
  Handler.refuse (ack.valid true = false) (.valueError "Invalid file ack v2 payload")
  Handler.refuse (ack.recipientId ≠ peer.peerId) (.valueError "File ack identity mismatch")
  Handler.refuse (verified crypto peer.toFilePeer ack.signature (crypto.canonical (.object ack.unsignedMembers)) = false)
    (.valueError "Invalid file ack signature")

def handleGroupAck (task : Nat) (peer : RecipientPeer) (transfer : FileTransfer) (ack : FileAckV2Payload) :
    Program Unit := do
  match ← query fun sender => sender.db.getFileDelivery transfer.fileId peer.peerId with
  | none => pure ()
  | some delivery =>
      if delivery.status = .completed then pure ()
      else acceptAck identity dumps encryptForRecipient task peer transfer ack

def handleAck (task : Nat) (peer : RecipientPeer) (ack : FileAckV2Payload) : Program Unit := do
  Task.perform .query fun _ => checkAck crypto peer ack
  match ← query fun sender => sender.db.getFileTransfer ack.fileId with
  | none => pure ()
  | some transfer =>
      if transfer.direction ≠ .outbound ∨ transfer.senderId ≠ identity.peerId ∨ transfer.fileSha256 = "" then pure ()
      else match transfer.group? with
        | some _ => handleGroupAck identity dumps encryptForRecipient task peer transfer ack
        | none =>
            if transfer.recipientId ≠ peer.peerId ∨ transfer.status = .completed then pure ()
            else acceptAck identity dumps encryptForRecipient task peer transfer ack

/-- `handle_packet` of an acknowledgement: one packet of a peer at a time. -/
def handlePacket (task : Nat) (peer : RecipientPeer) (ack : FileAckV2Payload) : Program Unit := do
  Task.acquire (.lockPeer task peer.peerId) (fun sender => !sender.packetLocks.contains peer.peerId) fun sender =>
    { sender with packetLocks := sender.packetLocks.set peer.peerId task }
  ((handleAck identity dumps encryptForRecipient task peer ack).recover logAndDrop).ensuring
    (Task.perform (.unlockPeer task peer.peerId) fun _ => Handler.change fun sender =>
      { sender with packetLocks := sender.packetLocks.erase peer.peerId })

/-! ## The service -/

inductive SendRequest where
  | send (target : Target) (source : Path) (caption : String)
  | sendBatch (target : Target) (entries : List (Path × Option String)) (caption : String)
  | retry (fileId : String) (recipientId : Option PeerId)
  | flush (peerId : PeerId)
  | acknowledge (peer : RecipientPeer) (ack : FileAckV2Payload)
  | surround (surroundings : Surroundings)

def sendProgram (task : Nat) : SendRequest → Program Unit
  | .send target source caption => do
      let _ ← sendTo identity dumps encryptForRecipient task target source caption none
  | .sendBatch target entries caption => sendBatch identity dumps encryptForRecipient task target entries caption
  | .retry fileId recipientId => retryFile identity dumps encryptForRecipient task fileId recipientId
  | .flush peerId => flushForPeer identity task peerId
  | .acknowledge peer ack => handlePacket identity dumps encryptForRecipient task peer ack
  | .surround surroundings =>
      Task.perform .surroundings fun _ => Handler.change fun sender => sender.surround surroundings

def sendService : Service Sender SendFate SendPoint SendError SendRequest where
  program := fun request task => sendProgram identity dumps encryptForRecipient task request
  reboot := Sender.reboot

end

end MeshTalk.Deliveries
